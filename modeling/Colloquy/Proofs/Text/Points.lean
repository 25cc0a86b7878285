/-
Lists of characters that are texts. A text spells code points, and there is
one way to spell each of them, so not every list of characters is a text: the
mark stands with the character after it for one code point (`IsText`). Texts
can be put one after another, and a text stands somewhere in another one where
its code points do.
-/
import Colloquy.Text.Points
import Colloquy.Text.Search
import Mathlib.Data.List.DropRight

namespace Colloquy.Text

/-- The characters are those of code points, each spelled by `ofPoint`. -/
inductive IsText : List Char → Prop
  | nil : IsText []
  | point {n : Nat} (hn : n < 0x110000) {rest : List Char}
      (hrest : IsText rest) : IsText (ofPoint n ++ rest)

/-- Texts are what `ofPoints` gives. -/
theorem isText_iff {text : List Char} :
    IsText text ↔ ∃ ns : List Nat, (∀ n ∈ ns, n < 0x110000)
      ∧ text = ofPoints ns := by
  constructor
  · intro h
    induction h with
    | nil => exact ⟨[], nofun, rfl⟩
    | @point n hn rest _ ih =>
        obtain ⟨ns, hns, rfl⟩ := ih
        exact ⟨n :: ns, List.forall_mem_cons.2 ⟨hn, hns⟩, rfl⟩
  · rintro ⟨ns, hns, rfl⟩
    induction ns with
    | nil => exact .nil
    | cons n ns ih =>
        obtain ⟨hn, hns⟩ := List.forall_mem_cons.1 hns
        exact .point hn (ih hns)

-- ============================================================ one character

/-- A character that stands behind the `mark`: another mark, or a stand-in. -/
def IsSecond (c : Char) : Prop :=
  c = mark ∨ (0x10d800 ≤ c.toNat ∧ c.toNat ≤ 0x10dfff)

/-- What `ofPoint` gives is one character other than the `mark`, or the mark
and another character. -/
theorem ofPoint_cases (n : Nat) :
    (∃ c, c ≠ mark ∧ ofPoint n = [c]) ∨ ∃ c, IsSecond c
      ∧ ofPoint n = [mark, c] := by
  unfold ofPoint
  by_cases hhalf : isHalf n = true
  · rw [if_pos hhalf]
    have hbounds : 0xd800 ≤ n ∧ n ≤ 0xdfff := by simpa [isHalf] using hhalf
    have hnumber : (Char.ofNat (n + standInOffset)).toNat
        = n + standInOffset :=
      toNat_ofNat _ (.inr ⟨by simp only [standInOffset]; omega,
        by simp only [standInOffset]; omega⟩)
    refine .inr ⟨_, .inr ?_, rfl⟩
    rw [hnumber]
    simp only [standInOffset]
    omega
  · rw [if_neg hhalf]
    by_cases hmark : n = mark.toNat
    · rw [if_pos hmark]
      exact .inr ⟨mark, .inl rfl, rfl⟩
    · rw [if_neg hmark]
      refine .inl ⟨_, fun h => ?_, rfl⟩
      by_cases hvalid : n.isValidChar
      · rw [← h, toNat_ofNat n hvalid] at hmark
        exact hmark rfl
      · have hzero : Char.ofNat n = '\x00' := by
          unfold Char.ofNat
          rw [dif_neg hvalid]
          rfl
        rw [hzero] at h
        revert h
        decide

/-- A character other than the `mark` in front of a text gives a text. -/
theorem isText_cons {c : Char} (hc : c ≠ mark) {rest : List Char}
    (hrest : IsText rest) : IsText (c :: rest) := by
  have hvalid : c.toNat.isValidChar := c.valid
  have hlow : c.toNat < 0x110000 := by
    rcases hvalid with h | h <;> omega
  have hhalf : isHalf c.toNat = false := by
    simp only [isHalf, Bool.and_eq_false_iff, decide_eq_false_iff_not]
    rcases hvalid with h | h <;> omega
  have hmark : c.toNat ≠ mark.toNat := fun h => hc (Char.toNat_inj.1 h)
  have hspelled : ofPoint c.toNat = [c] := by
    unfold ofPoint
    rw [hhalf, if_neg Bool.false_ne_true, if_neg hmark, Char.ofNat_toNat]
  have htext := IsText.point hlow hrest
  rw [hspelled] at htext
  exact htext

/-- Behind a character other than the `mark`, a text goes on as a text. -/
theorem IsText.tail {c : Char} {rest : List Char} (h : IsText (c :: rest))
    (hc : c ≠ mark) : IsText rest := by
  generalize htext : c :: rest = text at h
  cases h with
  | nil => cases htext
  | @point n hn rest' hrest =>
      rcases ofPoint_cases n with ⟨d, -, heq⟩ | ⟨d, -, heq⟩
      · rw [heq] at htext
        cases htext
        exact hrest
      · rw [heq] at htext
        cases htext
        exact absurd rfl hc

-- ================================================================== texts

theorem IsText.append {text more : List Char} (h : IsText text)
    (hmore : IsText more) : IsText (text ++ more) := by
  induction h with
  | nil => exact hmore
  | point hn _ ih =>
      rw [List.append_assoc]
      exact .point hn ih

/-- Characters other than the `mark` in front of a text give a text. -/
theorem isText_append_of_unmarked {characters rest : List Char}
    (h : mark ∉ characters) (hrest : IsText rest) :
    IsText (characters ++ rest) := by
  induction characters with
  | nil => exact hrest
  | cons c characters ih =>
      rw [List.mem_cons, not_or] at h
      exact isText_cons (Ne.symm h.1) (ih h.2)

/-- Characters other than the `mark` are a text. -/
theorem isText_of_unmarked {characters : List Char} (h : mark ∉ characters) :
    IsText characters := by
  have htext := isText_append_of_unmarked h .nil
  rwa [List.append_nil] at htext

/-- Dropping characters from its start, of which the `mark` is none, leaves a
text. -/
theorem IsText.dropWhile {p : Char → Bool} (hp : p mark = false)
    {text : List Char} (h : IsText text) : IsText (text.dropWhile p) := by
  induction text with
  | nil => exact h
  | cons c rest ih =>
      by_cases hc : p c = true
      · rw [List.dropWhile_cons_of_pos hc]
        refine ih (h.tail ?_)
        rintro rfl
        exact Bool.false_ne_true (hp.symm.trans hc)
      · rw [List.dropWhile_cons_of_neg hc]
        exact h

/-- Without a last character that is not `IsSecond`, a text is a text. -/
theorem IsText.init {c : Char} (hc : ¬ IsSecond c) {text : List Char}
    (h : IsText (text ++ [c])) : IsText text := by
  generalize hlast : text ++ [c] = whole at h
  induction h generalizing text with
  | nil => exact absurd hlast (List.append_ne_nil_of_right_ne_nil _ nofun)
  | @point n hn rest _ ih =>
      cases text with
      | nil => exact .nil
      | cons d text =>
          rcases ofPoint_cases n with ⟨e, he, heq⟩ | ⟨e, he, heq⟩
          · rw [heq] at hlast
            obtain ⟨rfl, htail⟩ : d = e ∧ text ++ [c] = rest :=
              List.cons.inj hlast
            exact isText_cons he (ih htail)
          · rw [heq] at hlast
            obtain ⟨rfl, htail⟩ : d = mark ∧ text ++ [c] = e :: rest :=
              List.cons.inj hlast
            cases text with
            | nil =>
                obtain ⟨rfl, -⟩ : c = e ∧ [] = rest := List.cons.inj htail
                exact absurd he hc
            | cons d text =>
                obtain ⟨rfl, hrest⟩ : d = e ∧ text ++ [c] = rest :=
                  List.cons.inj htail
                have htext := IsText.point hn (ih hrest)
                rw [heq] at htext
                exact htext

/-- Dropping characters from its end, none of which `IsSecond`, leaves a text.
-/
theorem IsText.rdropWhile {p : Char → Bool}
    (hp : ∀ c, p c = true → ¬ IsSecond c) {text : List Char}
    (h : IsText text) : IsText (text.rdropWhile p) := by
  induction text using List.reverseRecOn with
  | nil => exact h
  | append_singleton text c ih =>
      rw [List.rdropWhile_concat]
      by_cases hc : p c = true
      · rw [if_pos hc]
        exact ih (h.init (hp c hc))
      · rw [if_neg hc]
        exact h

/-- The `points` of a text and of what stands behind it. -/
theorem IsText.points_append {text : List Char} (h : IsText text)
    (rest : List Char) :
    points (text ++ rest) = points text ++ points rest := by
  induction h with
  | nil => rfl
  | @point n hn text _ ih =>
      rw [List.append_assoc, points_ofPoint_append n hn,
        points_ofPoint_append n hn, ih]
      rfl

/-- A text comes back from its `points`. -/
theorem IsText.ofPoints_points {text : List Char} (h : IsText text) :
    ofPoints (points text) = text := by
  obtain ⟨ns, hns, rfl⟩ := isText_iff.1 h
  rw [points_ofPoints ns hns]

-- ================================================================ occurring

/-- A text is found by `occursIn` where it stands behind a text. -/
theorem IsText.occursIn_append {before text : List Char}
    (hbefore : IsText before) (htext : IsText text) (after : List Char) :
    occursIn (points text) (points (before ++ text ++ after)) = true := by
  refine occursIn_iff.2 ⟨points before, points after, ?_⟩
  rw [List.append_assoc, hbefore.points_append, htext.points_append,
    List.append_assoc]

/-- A text that is found by `occursIn` in another one is an infix of it. -/
theorem IsText.infix_of_occursIn {phrase text : List Char}
    (hphrase : IsText phrase) (htext : IsText text)
    (h : occursIn (points phrase) (points text) = true) :
    phrase <:+: text := by
  obtain ⟨before, after, hpoints⟩ := occursIn_iff.1 h
  refine ⟨ofPoints before, ofPoints after, ?_⟩
  have hspelled := congrArg ofPoints hpoints
  rw [htext.ofPoints_points] at hspelled
  rw [hspelled]
  unfold ofPoints
  rw [List.flatMap_append, List.flatMap_append]
  show _ ++ phrase ++ _ = _ ++ ofPoints (points phrase) ++ _
  rw [hphrase.ofPoints_points]

end Colloquy.Text
