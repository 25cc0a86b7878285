/-
Strings and numbers of JSON text read back. Inside a string every character
is written so that reading takes it in one step, whatever stands behind it
(`readContent_escapeChar`); the induction over the string only counts the
steps. A whole number is a run of digits, and it ends where something else
begins: a comma or a bracket, or nothing at all (`Ends`).
-/
import Colloquy.Json.Reader
import Colloquy.Json.Writer
import Mathlib.Tactic.IntervalCases

namespace Colloquy.Json

-- ============================================================== strings

theorem code?_hexDigits : ∀ n < 0x20, code? (Text.hexDigits 4 n) = some n := by
  decide

theorem length_hexDigits (count n : Nat) :
    (Text.hexDigits count n).length = count := by
  induction count generalizing n with
  | zero => rfl
  | succ count ih => simp [Text.hexDigits, ih]

/-- The code escape of a control character is read, if `rest` is not empty. -/
theorem readCodeEscape_control {n : Nat} (hn : n < 0x20) {rest : List Char}
    (hrest : rest ≠ []) :
    readCodeEscape ('u' :: Text.hexDigits 4 n ++ rest) = .ok (n, rest) := by
  have hpos : 0 < rest.length := List.length_pos_iff.2 hrest
  have hlength := length_hexDigits 4 n
  have htake : (Text.hexDigits 4 n ++ rest).take 4 = Text.hexDigits 4 n :=
    List.take_left' hlength
  have hdrop : (Text.hexDigits 4 n ++ rest).drop 4 = rest :=
    List.drop_left' hlength
  have hlong : ¬ (Text.hexDigits 4 n ++ rest).length ≤ 4 := by
    rw [List.length_append, hlength]
    omega
  have hlow : isHighSurrogate n = false := by
    simp [isHighSurrogate]
    omega
  unfold readCodeEscape
  simp only [List.cons_append, List.drop_succ_cons, List.drop_zero,
    if_neg hlong, htake, hdrop, code?_hexDigits n hn, hlow]
  split
  · rfl
  · rfl

section Content

variable {opening fuel : Nat} {rest content after : List Char}
  (h : readContent opening fuel rest = .ok (content, after))
include h

/-- One step of `readContent` over a character that stands for itself. -/
theorem readContent_plain {c : Char} (hquote : c ≠ '\x22')
    (hslash : c ≠ '\\') (hcontrol : ¬ c.toNat < 0x20) :
    readContent opening (fuel + 1) (c :: rest)
      = .ok (c :: content, after) := by
  simp only [readContent, if_neg hquote, if_neg hslash, if_neg hcontrol, h]
  rfl

/-- One step of `readContent` over a character that is escaped by a letter. -/
theorem readContent_letter {letter meant : Char} (hu : letter ≠ 'u')
    (hletter : escapeLetter? letter = some meant) :
    readContent opening (fuel + 1) ('\\' :: letter :: rest)
      = .ok (meant :: content, after) := by
  have hslash : '\\' ≠ '\x22' := by decide
  simp only [readContent, if_neg hslash, if_true, hletter, h]
  rfl

/-- One step of `readContent` over a control character that is escaped by its
code. -/
theorem readContent_code {c : Char} (hc : c.toNat < 0x20)
    (hrest : rest ≠ []) :
    readContent opening (fuel + 1)
        ('\\' :: 'u' :: Text.hexDigits 4 c.toNat ++ rest)
      = .ok (c :: content, after) := by
  have hslash : '\\' ≠ '\x22' := by decide
  have hpoint : Text.ofPoint c.toNat = [c] := by
    have hhalf : Text.isHalf c.toNat = false := by
      simp [Text.isHalf]
      omega
    have hmark : c.toNat ≠ Text.mark.toNat := by
      rw [Text.toNat_mark]
      omega
    rw [Text.ofPoint, hhalf, if_neg Bool.false_ne_true, if_neg hmark,
      Char.ofNat_toNat]
  have hcode := readCodeEscape_control hc hrest
  simp only [List.cons_append] at hcode ⊢
  simp only [readContent, if_neg hslash, if_true, hcode]
  show (readContent opening fuel rest >>= fun r =>
    .ok (Text.ofPoint c.toNat ++ r.1, r.2)) = _
  rw [h, hpoint]
  rfl

/-- One step of `readContent` over what `escapeChar` makes of a character. -/
theorem readContent_escapeChar (c : Char) (hrest : rest ≠ []) :
    readContent opening (fuel + 1) (escapeChar c ++ rest)
      = .ok (c :: content, after) := by
  unfold escapeChar
  by_cases hself : c = '\x22' ∨ c = '\\'
  · rw [if_pos hself]
    refine readContent_letter h ?_ ?_
    · rintro rfl
      revert hself
      decide
    · unfold escapeLetter?
      exact if_pos (hself.imp_right .inl)
  rw [if_neg hself]
  by_cases hn : c = '\n'
  · rw [if_pos hn, hn]
    exact readContent_letter h (by decide) (by decide)
  rw [if_neg hn]
  by_cases hr : c = '\r'
  · rw [if_pos hr, hr]
    exact readContent_letter h (by decide) (by decide)
  rw [if_neg hr]
  by_cases ht : c = '\t'
  · rw [if_pos ht, ht]
    exact readContent_letter h (by decide) (by decide)
  rw [if_neg ht]
  by_cases hb : c = '\x08'
  · rw [if_pos hb, hb]
    exact readContent_letter h (by decide) (by decide)
  rw [if_neg hb]
  by_cases hf : c = '\x0c'
  · rw [if_pos hf, hf]
    exact readContent_letter h (by decide) (by decide)
  rw [if_neg hf]
  rw [not_or] at hself
  by_cases hcontrol : c.toNat < 0x20
  · rw [if_pos hcontrol]
    exact readContent_code h hcontrol hrest
  · rw [if_neg hcontrol]
    exact readContent_plain h hself.1 hself.2 hcontrol

end Content

/-- Escaped characters are read by `readContent` up to the closing quote. -/
theorem readContent_escaped (opening : Nat) (s rest : List Char) :
    ∀ fuel, s.length < fuel →
      readContent opening fuel (s.flatMap escapeChar ++ '\x22' :: rest)
        = .ok (s, rest) := by
  induction s with
  | nil =>
      intro fuel hfuel
      obtain ⟨fuel, rfl⟩ := Nat.exists_eq_succ_of_ne_zero (Nat.ne_of_gt hfuel)
      rfl
  | cons c s ih =>
      intro fuel hfuel
      obtain ⟨fuel, rfl⟩ :=
        Nat.exists_eq_succ_of_ne_zero (Nat.ne_of_gt (Nat.zero_lt_of_lt hfuel))
      rw [List.flatMap_cons, List.append_assoc]
      refine readContent_escapeChar (ih fuel ?_) c (by simp)
      rw [List.length_cons] at hfuel
      omega

/-- After its opening quote, an escaped string is read by `readString`. -/
theorem readString_escaped (s rest : List Char) :
    readString (s.flatMap escapeChar ++ '\x22' :: rest)
      = .ok (.ofList s, rest) := by
  have hshort : s.length ≤ (s.flatMap escapeChar).length := by
    induction s with
    | nil => exact Nat.le_refl 0
    | cons c s ih =>
        have hone : 1 ≤ (escapeChar c).length := by
          grind [escapeChar]
        rw [List.flatMap_cons, List.length_append, List.length_cons]
        omega
  unfold readString
  rw [readContent_escaped]
  · rfl
  · rw [List.length_append]
    omega

-- ============================================================== numbers

/-- What may stand behind a value: nothing, a comma, or a closing bracket or
brace. -/
def Ends (rest : List Char) : Prop :=
  ∀ c ∈ rest.head?, c = ',' ∨ c = ']' ∨ c = '\x7d'

theorem Ends.not_digit {rest : List Char} (h : Ends rest) :
    ∀ c ∈ rest.head?, c.isDigit = false := by
  intro c hc
  rcases h c hc with rfl | rfl | rfl <;> decide

/-- Before a rest that `Ends` a value, a run of digits is taken as a whole. -/
theorem takeWhile_digits {digits rest : List Char}
    (hdigits : ∀ c ∈ digits, c.isDigit = true) (hrest : Ends rest) :
    (digits ++ rest).takeWhile Char.isDigit = digits
      ∧ (digits ++ rest).dropWhile Char.isDigit = rest := by
  have hstop : rest.takeWhile Char.isDigit = []
      ∧ rest.dropWhile Char.isDigit = rest := by
    cases rest with
    | nil => exact ⟨rfl, rfl⟩
    | cons c rest =>
        have hc := hrest.not_digit c rfl
        simp [hc]
  rw [List.takeWhile_append_of_pos hdigits,
    List.dropWhile_append_of_pos hdigits,
    hstop.1, hstop.2, List.append_nil]
  exact ⟨rfl, rfl⟩

theorem isDigit_of_mem {n : Nat} {c : Char} (hc : c ∈ Nat.toDigits 10 n) :
    c.isDigit = true :=
  Nat.isDigit_of_mem_toDigits (by decide) (Nat.le_refl 10) hc

/-- A digit is none of `marks`, if there is no digit among them. -/
theorem not_mem_of_isDigit {c : Char} (hc : c.isDigit = true)
    {marks : List Char} (hmarks : marks.any Char.isDigit = false) :
    c ∉ marks := by
  intro hmem
  rw [List.any_eq_false] at hmarks
  exact hmarks c hmem hc

/-- Digits of a number: `Nat.toDigits` gives at least one, and the first one is
no zero unless it is alone. -/
theorem toDigits_cons (n : Nat) :
    ∃ d ds, Nat.toDigits 10 n = d :: ds ∧ d.isDigit = true
      ∧ (d = '0' → n = 0 ∧ ds = []) := by
  induction n using Nat.strongRecOn with
  | ind n ih =>
      rw [Nat.toDigits_eq_if (by decide)]
      by_cases hsmall : n < 10
      · rw [if_pos hsmall]
        refine ⟨_, [], rfl, ?_⟩
        interval_cases n <;> decide
      · rw [if_neg hsmall]
        obtain ⟨d, ds, heq, hdigit, hzero⟩ := ih (n / 10) (by omega)
        rw [heq]
        refine ⟨d, _, rfl, hdigit, ?_⟩
        intro hd
        have := (hzero hd).1
        omega

/-- The digits of a number below ten to the `maxDigits` are read by
`readUnsigned`, under the sign that was read before. -/
theorem readUnsigned_digits (negative : Bool) {n : Nat}
    (hn : n < 10 ^ maxDigits) {rest : List Char} (hrest : Ends rest)
    (start : List Char) :
    readUnsigned negative (Nat.toDigits 10 n ++ rest) start
      = .ok (.int (if negative then -n else n), rest) := by
  obtain ⟨d, ds, heq, hdigit, hzero⟩ := toDigits_cons n
  have hdigits : ∀ c ∈ d :: ds, c.isDigit = true := by
    rw [← heq]
    exact fun c hc => isDigit_of_mem hc
  have hvalue : integerValue (d :: ds) = n := by
    rw [← heq]
    exact Nat.ofDigitChars_toDigits (by decide) (Nat.le_refl 10)
  have hshort : ¬ (d :: ds).length > maxDigits := by
    rw [← heq, gt_iff_lt, Nat.not_lt]
    exact (Nat.length_toDigits_le_iff (by decide) (by decide)).2 hn
  obtain ⟨htake, hdrop⟩ := takeWhile_digits
    (List.forall_mem_cons.1 hdigits).2 hrest
  have hwhole : wholePart (d :: ds ++ rest) = some (d :: ds, rest) := by
    by_cases hd : d = '0'
    · obtain ⟨-, hds⟩ := hzero hd
      rw [hd, hds]
      rfl
    · rw [List.cons_append]
      unfold wholePart
      split
      · next heq' =>
          cases heq'
          exact absurd rfl hd
      · next heq' =>
          cases heq'
          rw [if_pos hdigit, htake, hdrop]
      · next heq' => cases heq'
  have hfraction : fractionPart rest = none := by
    cases rest with
    | nil => rfl
    | cons c rest =>
        rcases hrest c rfl with rfl | rfl | rfl <;> rfl
  have hexponent : exponentPart rest = none := by
    cases rest with
    | nil => rfl
    | cons c rest =>
        rcases hrest c rfl with rfl | rfl | rfl <;> rfl
  unfold readUnsigned
  rw [heq, hwhole]
  simp only [hfraction, hexponent, Option.map_none, Option.getD_none,
    Option.isNone_none, Bool.and_self, if_true, if_neg hshort, hvalue]

/-- The text of a whole number is its `Nat.toDigits`, after a minus sign if it
is negative. -/
theorem toList_toString (n : Int) :
    (toString n).toList
      = (if n < 0 then ['-'] else []) ++ Nat.toDigits 10 n.natAbs := by
  rw [Int.toString_eq_repr, Int.repr_eq_if]
  by_cases hn : n < 0
  · have hneg : ¬ 0 ≤ n := by omega
    have habs : (-n).toNat = n.natAbs := by omega
    simp [if_neg hneg, if_pos hn, habs, Nat.repr_eq_ofList_toDigits]
  · have hpos : 0 ≤ n := by omega
    have habs : n.toNat = n.natAbs := by omega
    simp [if_pos hpos, if_neg hn, habs, Nat.repr_eq_ofList_toDigits]

/-- None of the `wordValues` starts with a digit, or with a minus sign and a
digit. -/
theorem findSome?_words {c : Char} (hc : c.isDigit = true)
    (rest : List Char) :
    ∀ sign ∈ [[], ['-']], (wordValues.findSome? fun (word, value) =>
      readWord? word value (sign ++ c :: rest)) = none := by
  have hne : ∀ other : Char, other.isDigit = false → other ≠ c := by
    rintro other hother rfl
    rw [hc] at hother
    cases hother
  simp [wordValues, readWord?, hne]

/-- The text of a whole number with at most `maxDigits` digits is read by
`readScalar`. -/
theorem readScalar_int {n : Int} (hn : n.natAbs < 10 ^ maxDigits)
    {rest : List Char} (hrest : Ends rest) :
    readScalar ((toString n).toList ++ rest) = .ok (.int n, rest) := by
  obtain ⟨d, ds, heq, hdigit, -⟩ := toDigits_cons n.natAbs
  have hwords := findSome?_words hdigit (ds ++ rest)
  rw [toList_toString]
  by_cases hneg : n < 0
  · have hread := readUnsigned_digits true hn hrest
    have hvalue : -(n.natAbs : Int) = n := by omega
    have hword := hwords ['-'] (by simp)
    rw [if_pos hneg]
    rw [heq] at hread ⊢
    unfold readScalar
    simp only [List.cons_append, List.nil_append] at hword hread ⊢
    simp only [hword, hread, if_true, hvalue]
  · have hread := readUnsigned_digits false hn hrest
    have hvalue : (n.natAbs : Int) = n := by omega
    have hword := hwords [] (by simp)
    have hminus : d ≠ '-' := by
      rintro rfl
      revert hdigit
      decide
    rw [if_neg hneg]
    rw [heq] at hread ⊢
    unfold readScalar
    simp only [List.cons_append, List.nil_append] at hword hread ⊢
    simp only [hword]
    split
    · next heq' =>
        cases heq'
        exact absurd rfl hminus
    · rw [hread, hvalue]
      rfl

end Colloquy.Json
