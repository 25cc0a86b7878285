/-
Phrases in texts that are lowered and trimmed. A text is lowered and trimmed
before a phrase is looked for in it, and the phrase is lowered alone. So the
phrase can be missed where it stands. Trimming takes away the blanks that it
opens or closes with, if they end up at an end of the text; and a capital
sigma is lowered to one letter at the end of a word and to another one
elsewhere, which the phrase alone need not tell.

Nothing else goes wrong: a phrase that neither opens nor closes with a blank
and that settles each of its capital sigmas by itself is found in every text
that holds it (`occursIn_of_isSelfContained`), and any other phrase is missed
in some text (`isSelfContained_of_occursIn`).

# In context

Each character is lowered by itself but for the capital sigma, which looks at
what stands before it and after it. `lowerAmid` lowers a text that has
something on both sides, so lowering goes part by part (`lowerAmid_append`).
What is missed is seen by counting: around a phrase that does not settle its
sigmas a letter can be put that leaves fewer of one of the two small ones.
-/
import Colloquy.Definition
import Colloquy.Proofs.Text.Points
import Mathlib.Data.List.Count
import Mathlib.Data.List.DropRight

namespace Colloquy.Text

-- =========================================================== one character

/-- The blanks, the mark and the stand-ins: they have no case, and are no form
of a letter with one. -/
def caseless : Ranges := blanks ++ [(0x10d800, 0x10dfff), (0x10ffff, 0x10ffff)]

theorem caseless_of_isBlank {c : Char} (h : isBlank c = true) :
    caseless.covers c = true := by
  obtain ⟨first, last, hmem, hrange⟩ := Ranges.covers_iff.1 h
  exact Ranges.covers_iff.2 ⟨first, last, List.mem_append_left _ hmem, hrange⟩

theorem caseless_of_isSecond {c : Char} (h : IsSecond c) :
    caseless.covers c = true := by
  rcases h with rfl | ⟨hfirst, hlast⟩
  · decide
  · exact Ranges.covers_iff.2 ⟨0x10d800, 0x10dfff, by decide, hfirst, hlast⟩

/-- The `lowerRuns` map no `caseless` character, and none to one. -/
theorem lowerRuns_apart : ∀ r ∈ lowerRuns, ∀ q ∈ caseless,
    (r.last < q.1 ∨ q.2 < r.first)
      ∧ (r.last + r.offset < q.1 ∨ q.2 < r.first + r.offset) := by
  decide +kernel

/-- Below U+0080, `Char.toLower` keeps the `caseless` characters, and gives
none for another one. -/
theorem toLower_apart : ∀ n < 0x80,
    caseless.covers (Char.ofNat n).toLower = caseless.covers (Char.ofNat n)
      ∧ (caseless.covers (Char.ofNat n) = true →
        (Char.ofNat n).toLower = Char.ofNat n) := by
  decide +kernel

/-- What is `caseless` is lowered to itself by `lowerChar`. -/
theorem lowerChar_of_caseless {c : Char} (h : caseless.covers c = true) :
    lowerChar c = [c] := by
  unfold lowerChar
  by_cases hascii : c.toNat < 0x80
  · have hsame := (toLower_apart c.toNat hascii).2
    rw [Char.ofNat_toNat] at hsame
    rw [if_pos hascii, hsame h]
  rw [if_neg hascii]
  by_cases hdotted : c.toNat = 0x130
  · have hc : c = Char.ofNat 0x130 := by rw [← hdotted, Char.ofNat_toNat]
    subst hc
    revert h
    decide
  rw [if_neg hdotted]
  -- no run maps it
  obtain ⟨first, last, hmem, hfirst, hlast⟩ := Ranges.covers_iff.1 h
  have hnone : lowerRuns.find? (·.covers c.toNat) = none := by
    refine List.find?_eq_none.2 fun r hr hcovers => ?_
    have hapart := (lowerRuns_apart r hr (first, last) hmem).1
    simp only [CaseRun.covers, Bool.and_eq_true, decide_eq_true_eq] at hcovers
    dsimp only at hapart
    omega
  unfold mapByRuns
  rw [hnone, Char.ofNat_toNat]

/-- A number that is no character's is read as the first one. -/
theorem toNat_ofNat_cases (n : Nat) :
    (Char.ofNat n).toNat = n ∨ (Char.ofNat n).toNat = 0 := by
  by_cases hvalid : n.isValidChar
  · exact .inl (toNat_ofNat n hvalid)
  · right
    unfold Char.ofNat
    rw [dif_neg hvalid]
    rfl

/-- If `lowerChar c` holds a `caseless` character, `c` is one. -/
theorem caseless_of_mem_lowerChar {c d : Char} (hd : d ∈ lowerChar c)
    (h : caseless.covers d = true) : caseless.covers c = true := by
  unfold lowerChar at hd
  by_cases hascii : c.toNat < 0x80
  · have hsame := (toLower_apart c.toNat hascii).1
    rw [Char.ofNat_toNat] at hsame
    rw [if_pos hascii, List.mem_singleton] at hd
    rw [← hsame, ← hd]
    exact h
  rw [if_neg hascii] at hd
  by_cases hdotted : c.toNat = 0x130
  · rw [if_pos hdotted] at hd
    rcases List.mem_cons.1 hd with rfl | hd
    · exact absurd h (by decide)
    · rw [List.mem_singleton.1 hd] at h
      exact absurd h (by decide)
  rw [if_neg hdotted, List.mem_singleton] at hd
  unfold mapByRuns at hd
  cases hfind : lowerRuns.find? (·.covers c.toNat) with
  | none =>
      rw [hfind] at hd
      dsimp only at hd
      rw [Char.ofNat_toNat] at hd
      rw [← hd]
      exact h
  | some r =>
      rw [hfind] at hd
      dsimp only at hd
      have hcovers := List.find?_some hfind
      simp only [CaseRun.covers, Bool.and_eq_true, decide_eq_true_eq]
        at hcovers
      obtain ⟨first, last, hmem, hfirst, hlast⟩ := Ranges.covers_iff.1 h
      obtain ⟨hbefore, hafter⟩ :=
        lowerRuns_apart r (List.mem_of_find?_eq_some hfind) (first, last) hmem
      have hpositive : 0 < first := by
        have hall : ∀ q ∈ caseless, 0 < q.1 := by decide
        exact hall (first, last) hmem
      rcases toNat_ofNat_cases (c.toNat + r.offset).toNat with hn | hn
      · rw [hd, hn] at hfirst hlast
        dsimp only at hafter
        omega
      · rw [hd, hn] at hfirst
        omega

-- ============================================================== in context

/-- The lower-case form of `c` between two texts, `before` in reverse. -/
def lowerAt (before after : List Char) (c : Char) : List Char :=
  if c = 'Σ' then
    [if nextIsCased before && !nextIsCased after then 'ς' else 'σ']
  else lowerChar c

/-- The lower-case form of a text between two others, `before` in reverse. -/
def lowerAmid (before after : List Char) : List Char → List Char
  | [] => []
  | c :: rest =>
    lowerAt before (rest ++ after) c ++ lowerAmid (c :: before) after rest

theorem lowerFrom_eq (before text : List Char) :
    lowerFrom before text = lowerAmid before [] text := by
  induction text generalizing before with
  | nil => rfl
  | cons c rest ih =>
      rw [lowerFrom, lowerAmid, ih, List.append_nil]
      rfl

theorem lower_eq (text : List Char) : lower text = lowerAmid [] [] text :=
  lowerFrom_eq [] text

/-- Lowering (`lowerAmid`) goes part by part. -/
theorem lowerAmid_append (before after text more : List Char) :
    lowerAmid before after (text ++ more)
      = lowerAmid before (more ++ after) text
        ++ lowerAmid (text.reverse ++ before) after more := by
  induction text generalizing before with
  | nil => rfl
  | cons c rest ih =>
      rw [List.cons_append, lowerAmid, lowerAmid, ih, List.append_assoc,
        List.append_assoc, List.reverse_cons, List.append_assoc]
      rfl

/-- The three parts of `lower` for a phrase in a text. -/
theorem lower_around (before phrase after : List Char) :
    lower (before ++ phrase ++ after)
      = lowerAmid [] (phrase ++ after) before
        ++ lowerAmid before.reverse after phrase
        ++ lowerAmid (phrase.reverse ++ before.reverse) [] after := by
  rw [lower_eq, lowerAmid_append, lowerAmid_append]
  simp only [List.append_nil, List.reverse_append]

variable {before after : List Char} {c d : Char}

theorem lowerAt_ne_nil : lowerAt before after c ≠ [] := by
  unfold lowerAt lowerChar
  split_ifs <;> exact List.cons_ne_nil _ _

/-- Wherever it stands, what is `caseless` is lowered to itself, -/
theorem lowerAt_of_caseless (h : caseless.covers c = true) :
    lowerAt before after c = [c] := by
  unfold lowerAt
  rw [if_neg ?_, lowerChar_of_caseless h]
  rintro rfl
  revert h
  decide

/-- and nothing else is lowered to it. -/
theorem eq_of_mem_lowerAt (hd : d ∈ lowerAt before after c)
    (h : caseless.covers d = true) : d = c := by
  have hc : caseless.covers c = true := by
    unfold lowerAt at hd
    by_cases hsigma : c = 'Σ'
    · have hsmall : caseless.covers 'ς' = false
          ∧ caseless.covers 'σ' = false := by decide
      rw [if_pos hsigma, List.mem_singleton] at hd
      rw [hd] at h
      split_ifs at h
      · exact absurd h (Bool.eq_false_iff.1 hsmall.1)
      · exact absurd h (Bool.eq_false_iff.1 hsmall.2)
    · rw [if_neg hsigma] at hd
      exact caseless_of_mem_lowerChar hd h
  rw [lowerAt_of_caseless hc] at hd
  exact List.mem_singleton.1 hd

/-- What `lowerAmid` makes of a text is a text. -/
theorem IsText.lowerAmid {text : List Char} (h : IsText text)
    (before after : List Char) : IsText (lowerAmid before after text) := by
  induction h generalizing before with
  | nil => exact .nil
  | @point n hn rest _ ih =>
      rcases ofPoint_cases n with ⟨c, hc, heq⟩ | ⟨c, hc, heq⟩
      · rw [heq]
        refine isText_append_of_unmarked (fun hmark => hc ?_) (ih _)
        exact (eq_of_mem_lowerAt hmark (by decide)).symm
      · have hsame : Text.lowerAmid before after ([mark, c] ++ rest)
            = [mark, c]
              ++ Text.lowerAmid (c :: mark :: before) after rest := by
          rw [List.cons_append, List.cons_append, Text.lowerAmid,
            Text.lowerAmid, lowerAt_of_caseless (by decide),
            lowerAt_of_caseless (caseless_of_isSecond hc)]
          rfl
        rw [heq, hsame, ← heq]
        exact .point hn (ih _)

-- ================================================================== sigmas

/-- Whether a sigma looks past every character of `text`. -/
def passesOver (text : List Char) : Bool := text.all caseIgnorable.covers

/-- If all of a text is passed over, `nextIsCased` depends on what lies behind
it, and otherwise on the text. -/
theorem nextIsCased_append (text more : List Char) :
    nextIsCased (text ++ more)
      = if passesOver text then nextIsCased more else nextIsCased text := by
  unfold nextIsCased passesOver
  induction text with
  | nil => rfl
  | cons c rest ih =>
      rw [List.cons_append, List.all_cons]
      cases hc : caseIgnorable.covers c with
      | true =>
          rw [List.dropWhile_cons_of_pos hc, List.dropWhile_cons_of_pos hc, ih,
            Bool.true_and]
      | false =>
          have hstays : ¬ caseIgnorable.covers c = true :=
            Bool.eq_false_iff.1 hc
          rw [List.dropWhile_cons_of_neg hstays,
            List.dropWhile_cons_of_neg hstays, Bool.false_and,
            if_neg Bool.false_ne_true]

theorem nextIsCased_of_passesOver {text : List Char}
    (h : passesOver text = true) : nextIsCased text = false := by
  have hnone := nextIsCased_append text []
  rw [List.append_nil, if_pos h] at hnone
  exact hnone

/-- Whether a sigma between two texts, `before` in reverse, is lowered to the
same letter whatever stands further away. -/
def sigmaSettled (before after : List Char) : Bool :=
  nextIsCased after
    || (!passesOver before && (!nextIsCased before || !passesOver after))

/-- Whether every capital sigma of a text is settled (`sigmaSettled`), with
`before` before it in reverse. -/
def steadyFrom (before : List Char) : List Char → Bool
  | [] => true
  | c :: rest =>
    (c ≠ 'Σ' || sigmaSettled before rest) && steadyFrom (c :: before) rest

/-- A sigma that is `sigmaSettled` is lowered to the same letter whatever
stands further away. -/
theorem lowerAt_of_settled {text : List Char}
    (h : sigmaSettled before text = true) (more : List Char) :
    lowerAt (before ++ more) (text ++ after) 'Σ'
      = lowerAt before (text ++ []) 'Σ' := by
  have hbefore : passesOver before = true → nextIsCased before = false :=
    nextIsCased_of_passesOver
  have hafter : passesOver text = true → nextIsCased text = false :=
    nextIsCased_of_passesOver
  unfold sigmaSettled at h
  unfold lowerAt
  rw [if_pos rfl, if_pos rfl, nextIsCased_append, nextIsCased_append,
    List.append_nil]
  cases hb : passesOver before <;> cases ha : passesOver text <;>
    simp_all

/-- A text that is `steadyFrom` what stands before it is lowered as it is
without more around it. -/
theorem lowerAmid_of_steady {text : List Char}
    (h : steadyFrom before text = true) (more after : List Char) :
    lowerAmid (before ++ more) after text = lowerAmid before [] text := by
  induction text generalizing before with
  | nil => rfl
  | cons c rest ih =>
      rw [steadyFrom, Bool.and_eq_true, Bool.or_eq_true] at h
      obtain ⟨hc, hrest⟩ := h
      have hfirst : lowerAt (before ++ more) (rest ++ after) c
          = lowerAt before (rest ++ []) c := by
        by_cases hsigma : c = 'Σ'
        · subst hsigma
          exact lowerAt_of_settled (by simpa using hc) more
        · unfold lowerAt
          rw [if_neg hsigma, if_neg hsigma]
      rw [lowerAmid, lowerAmid, hfirst, ← List.cons_append, ih hrest]

-- =============================================================== unsettled

/-- A letter that a sigma does not look past. -/
theorem nextIsCased_letter : nextIsCased ['a'] = true := by decide +kernel

/-- A letter put before makes no more `σ`. -/
theorem count_lowerAt_before (before text : List Char) (c : Char) :
    (lowerAt (before ++ ['a']) text c).count 'σ'
      ≤ (lowerAt before text c).count 'σ' := by
  unfold lowerAt
  by_cases hsigma : c = 'Σ'
  · have hbefore : passesOver before = true → nextIsCased before = false :=
      nextIsCased_of_passesOver
    rw [if_pos hsigma, if_pos hsigma, nextIsCased_append, nextIsCased_letter]
    cases hpasses : passesOver before with
    | false => exact Nat.le_refl _
    | true =>
        rw [hbefore hpasses, if_pos rfl, Bool.true_and, Bool.false_and,
          if_neg Bool.false_ne_true]
        cases nextIsCased text <;> decide
  · rw [if_neg hsigma, if_neg hsigma]

/-- A letter put behind makes no more `ς`. -/
theorem count_lowerAt_after (before text : List Char) (c : Char) :
    (lowerAt before (text ++ ['a']) c).count 'ς'
      ≤ (lowerAt before (text ++ []) c).count 'ς' := by
  unfold lowerAt
  by_cases hsigma : c = 'Σ'
  · rw [if_pos hsigma, if_pos hsigma, nextIsCased_append, nextIsCased_letter,
      List.append_nil]
    cases hpasses : passesOver text with
    | false => exact Nat.le_refl _
    | true =>
        rw [if_pos rfl, Bool.not_true, Bool.and_false,
          if_neg Bool.false_ne_true]
        cases nextIsCased before && !nextIsCased text <;> decide
  · rw [if_neg hsigma, if_neg hsigma]

theorem count_lowerAmid_before (before text : List Char) :
    (lowerAmid (before ++ ['a']) [] text).count 'σ'
      ≤ (lowerAmid before [] text).count 'σ' := by
  induction text generalizing before with
  | nil => exact Nat.le_refl _
  | cons c rest ih =>
      rw [lowerAmid, lowerAmid, List.count_append, List.count_append,
        ← List.cons_append]
      exact Nat.add_le_add (count_lowerAt_before before _ c) (ih (c :: before))

theorem count_lowerAmid_after (before text : List Char) :
    (lowerAmid before ['a'] text).count 'ς'
      ≤ (lowerAmid before [] text).count 'ς' := by
  induction text generalizing before with
  | nil => exact Nat.le_refl _
  | cons c rest ih =>
      rw [lowerAmid, lowerAmid, List.count_append, List.count_append]
      exact Nat.add_le_add (count_lowerAt_after before rest c)
        (ih (c :: before))

/-- A sigma that is not `sigmaSettled` is lowered to another letter with a
letter before it, or with one after it. -/
theorem lowerAt_of_unsettled {text : List Char}
    (h : sigmaSettled before text = false) :
    (lowerAt (before ++ ['a']) (text ++ []) 'Σ').count 'σ'
        < (lowerAt before (text ++ []) 'Σ').count 'σ'
      ∨ (lowerAt before (text ++ ['a']) 'Σ').count 'ς'
        < (lowerAt before (text ++ []) 'Σ').count 'ς' := by
  have hbefore : passesOver before = true → nextIsCased before = false :=
    nextIsCased_of_passesOver
  unfold sigmaSettled at h
  rw [Bool.or_eq_false_iff] at h
  obtain ⟨hplain, hunsure⟩ := h
  unfold lowerAt
  simp only [if_pos, nextIsCased_append, nextIsCased_letter, List.append_nil,
    hplain, Bool.not_false, Bool.and_true]
  cases hpasses : passesOver before with
  | true =>
      left
      rw [hbefore hpasses, if_pos rfl, if_pos rfl, if_neg Bool.false_ne_true]
      decide
  | false =>
      rw [hpasses, Bool.not_false, Bool.true_and, Bool.or_eq_false_iff,
        Bool.not_eq_false', Bool.not_eq_false'] at hunsure
      right
      rw [hunsure.1, hunsure.2, if_pos rfl, if_pos rfl, Bool.not_true,
        Bool.and_false, if_neg Bool.false_ne_true]
      decide

/-- A text that is not steady is lowered to fewer `σ` with a letter before it,
or to fewer `ς` with one after it. -/
theorem lowerAmid_of_unsteady {text : List Char}
    (h : steadyFrom before text = false) :
    (lowerAmid (before ++ ['a']) [] text).count 'σ'
        < (lowerAmid before [] text).count 'σ'
      ∨ (lowerAmid before ['a'] text).count 'ς'
        < (lowerAmid before [] text).count 'ς' := by
  induction text generalizing before with
  | nil => cases h
  | cons c rest ih =>
      simp only [lowerAmid, List.count_append]
      rw [← List.cons_append]
      rw [steadyFrom, Bool.and_eq_false_iff] at h
      rcases h with hfirst | hrest
      · rw [Bool.or_eq_false_iff, decide_eq_false_iff_not, not_not] at hfirst
        obtain ⟨rfl, hsettled⟩ := hfirst
        rcases lowerAt_of_unsettled hsettled with hlt | hlt
        · exact .inl (Nat.add_lt_add_of_lt_of_le hlt
            (count_lowerAmid_before ('Σ' :: before) rest))
        · exact .inr (Nat.add_lt_add_of_lt_of_le hlt
            (count_lowerAmid_after ('Σ' :: before) rest))
      · rcases ih hrest with hlt | hlt
        · exact .inl (Nat.add_lt_add_of_le_of_lt
            (count_lowerAt_before before _ c) hlt)
        · exact .inr (Nat.add_lt_add_of_le_of_lt
            (count_lowerAt_after before rest c) hlt)

-- ================================================================ trimming

/-- What `trimBy` leaves of a text stands in it, -/
theorem trimBy_isInfix (p : Char → Bool) (text : List Char) :
    trimBy p text <:+: text :=
  (List.rdropWhile_prefix p (text.dropWhile p)).isInfix.trans
    (List.dropWhile_suffix p).isInfix

/-- it does not open with what is trimmed, -/
theorem head?_trimBy {p : Char → Bool} {text : List Char}
    (h : c ∈ (trimBy p text).head?) : p c = false := by
  obtain ⟨rest, hrest⟩ : trimBy p text <+: text.dropWhile p :=
    List.rdropWhile_prefix p (text.dropWhile p)
  have hopens : (text.dropWhile p).head? = some c := by
    rw [← hrest, List.head?_append, Option.mem_def.1 h]
    rfl
  have hnot := List.head?_dropWhile_not p text
  rw [hopens] at hnot
  exact hnot

/-- and it does not close with it. -/
theorem getLast?_trimBy {p : Char → Bool} {text : List Char}
    (h : c ∈ (trimBy p text).getLast?) : p c = false := by
  obtain ⟨hne, hlast⟩ := List.mem_getLast?_eq_getLast h
  have hnot := List.rdropWhile_last_not p (text.dropWhile p) hne
  rw [hlast]
  exact Bool.eq_false_iff.2 hnot

/-- Dropping stops (`dropWhile`) at a text that does not open with what is
dropped. -/
theorem dropWhile_append_stop {p : Char → Bool} {text : List Char}
    (h : ∀ c ∈ text.head?, p c = false) (before : List Char) :
    (before ++ text).dropWhile p = before.dropWhile p ++ text := by
  induction before with
  | nil =>
      cases text with
      | nil => rfl
      | cons c rest =>
          have hc := h c rfl
          exact List.dropWhile_cons_of_neg (Bool.eq_false_iff.1 hc)
  | cons c rest ih =>
      by_cases hc : p c = true
      · rw [List.cons_append, List.dropWhile_cons_of_pos hc,
          List.dropWhile_cons_of_pos hc, ih]
      · rw [List.cons_append, List.dropWhile_cons_of_neg hc,
          List.dropWhile_cons_of_neg hc, List.cons_append]

/-- A text that neither opens nor closes with what `trimBy` trims stays,
whatever stands around it. -/
theorem trimBy_around {p : Char → Bool} {text : List Char} (hne : text ≠ [])
    (hopens : ∀ c ∈ text.head?, p c = false)
    (hcloses : ∀ c ∈ text.getLast?, p c = false) (before after : List Char) :
    trimBy p (before ++ text ++ after)
      = before.dropWhile p ++ text ++ after.rdropWhile p := by
  have hhead : ∀ c ∈ (text ++ after).head?, p c = false := by
    cases text with
    | nil => exact absurd rfl hne
    | cons c rest => exact hopens
  have hlast : ∀ c ∈ (text.reverse ++ (before.dropWhile p).reverse).head?,
      p c = false := by
    intro c hc
    rw [List.head?_append, List.head?_reverse,
      Option.or_of_isSome (List.getLast?_isSome.2 hne)] at hc
    exact hcloses c hc
  unfold trimBy
  rw [List.append_assoc, dropWhile_append_stop hhead, List.reverse_append,
    List.reverse_append, List.append_assoc, dropWhile_append_stop hlast]
  simp only [List.reverse_append, List.reverse_reverse, List.append_assoc]
  rfl

-- ================================================================= phrases

/-- Whether the phrase settles by itself how it stands in a lowered and trimmed
text: it neither opens nor closes with a blank, and whether one of its capital
sigmas ends a word can be told from the phrase alone (`steadyFrom`). -/
def isSelfContained (phrase : List Char) : Bool :=
  !phrase.head?.any isBlank && !phrase.getLast?.any isBlank
    && steadyFrom [] phrase

theorem isBlank_of_mem_lowerAt (hd : d ∈ lowerAt before after c) :
    isBlank d = isBlank c := by
  cases hblank : isBlank d with
  | true =>
      rw [← eq_of_mem_lowerAt hd (caseless_of_isBlank hblank), hblank]
  | false =>
      refine (Bool.eq_false_iff.2 fun hc => ?_).symm
      rw [lowerAt_of_caseless (caseless_of_isBlank hc),
        List.mem_singleton] at hd
      rw [hd, hc] at hblank
      cases hblank

/-- A text opens with a blank just where its lower-case form does, -/
theorem head?_lowerAmid (before after text : List Char) :
    (lowerAmid before after text).head?.any isBlank
      = text.head?.any isBlank := by
  cases text with
  | nil => rfl
  | cons c rest =>
      have hne : lowerAt before (rest ++ after) c ≠ [] := lowerAt_ne_nil
      obtain ⟨d, ds, heq⟩ := List.exists_cons_of_ne_nil hne
      rw [lowerAmid, heq]
      exact isBlank_of_mem_lowerAt (heq ▸ List.mem_cons_self ..)

/-- and so for closing with one. -/
theorem getLast?_lowerAmid (before after text : List Char) :
    (lowerAmid before after text).getLast?.any isBlank
      = text.getLast?.any isBlank := by
  rcases List.eq_nil_or_concat' text with rfl | ⟨init, c, rfl⟩
  · rfl
  · rw [lowerAmid_append, lowerAmid, lowerAmid, List.append_nil,
      List.getLast?_append, List.getLast?_append]
    have hne : lowerAt (init.reverse ++ before) ([] ++ after) c ≠ [] :=
      lowerAt_ne_nil
    rw [List.getLast?_eq_some_getLast hne]
    exact isBlank_of_mem_lowerAt (List.getLast_mem _)

/-- A phrase that `isSelfContained` is found, in its lower-case form, in every
text that holds it. -/
theorem occursIn_of_isSelfContained {phrase : List Char}
    (hphrase : IsText phrase) (h : isSelfContained phrase = true)
    {before : List Char} (hbefore : IsText before) (after : List Char) :
    occursIn (points (lower phrase))
      (points (trimBy isBlank (lower (before ++ phrase ++ after))))
        = true := by
  unfold isSelfContained at h
  simp only [Bool.and_eq_true, Bool.not_eq_true'] at h
  obtain ⟨⟨hopens, hcloses⟩, hsteady⟩ := h
  have hlower := lowerAmid_of_steady hsteady before.reverse after
  rw [List.nil_append, ← lower_eq] at hlower
  rw [← head?_lowerAmid [] [], ← lower_eq] at hopens
  rw [← getLast?_lowerAmid [] [], ← lower_eq] at hcloses
  have htext : IsText (lower phrase) := by
    rw [lower_eq]
    exact hphrase.lowerAmid [] []
  by_cases hempty : lower phrase = []
  · rw [hempty]
    exact occursIn_iff.2 ⟨[], _, rfl⟩
  rw [lower_around, hlower, trimBy_around hempty
    (fun c hc => by simpa [Option.mem_def.1 hc] using hopens)
    (fun c hc => by simpa [Option.mem_def.1 hc] using hcloses)]
  exact ((hbefore.lowerAmid _ _).dropWhile (by decide)).occursIn_append
    htext _

/-- A phrase that is found in every text that holds it `isSelfContained`. -/
theorem isSelfContained_of_occursIn {phrase : List Char}
    (hphrase : IsText phrase)
    (h : ∀ before after, IsText before → IsText after →
      occursIn (points (lower phrase)) (points (trimBy isBlank
        (lower (before ++ phrase ++ after)))) = true) :
    isSelfContained phrase = true := by
  have hfound : ∀ before after, IsText before → IsText after →
      lower phrase <:+: trimBy isBlank
        (lower (before ++ phrase ++ after)) := by
    intro before after hbefore hafter
    have htext : IsText (lower (before ++ phrase ++ after)) := by
      rw [lower_eq]
      exact ((hbefore.append hphrase).append hafter).lowerAmid [] []
    have hlower : IsText (lower phrase) := by
      rw [lower_eq]
      exact hphrase.lowerAmid [] []
    refine hlower.infix_of_occursIn ?_ (h before after hbefore hafter)
    refine IsText.rdropWhile (fun c hc hsecond => ?_)
      (htext.dropWhile (by decide))
    rcases hsecond with rfl | ⟨hfirst, hlast⟩
    · revert hc
      decide
    · simp [isBlank, blanks, Ranges.covers] at hc
      omega
  -- with nothing around it, nothing of it is trimmed
  have hwhole : trimBy isBlank (lower phrase) = lower phrase := by
    have hsame := hfound [] [] .nil .nil
    rw [List.nil_append, List.append_nil] at hsame
    have htrimmed := trimBy_isInfix isBlank (lower phrase)
    exact htrimmed.eq_of_length
      (Nat.le_antisymm htrimmed.length_le hsame.length_le)
  have hopens : (lower phrase).head?.any isBlank = false := by
    refine Bool.eq_false_iff.2 fun hany => ?_
    obtain ⟨c, hc, hblank⟩ := (Option.any_eq_true _ _).1 hany
    rw [← hwhole] at hc
    cases (head?_trimBy hc).symm.trans hblank
  have hcloses : (lower phrase).getLast?.any isBlank = false := by
    refine Bool.eq_false_iff.2 fun hany => ?_
    obtain ⟨c, hc, hblank⟩ := (Option.any_eq_true _ _).1 hany
    rw [← hwhole] at hc
    cases (getLast?_trimBy hc).symm.trans hblank
  rw [lower_eq, head?_lowerAmid] at hopens
  rw [lower_eq, getLast?_lowerAmid] at hcloses
  -- a letter around it leaves as many sigmas of either kind
  have hcount : ∀ before after d, IsText before → IsText after →
      (lower phrase).count d
        ≤ (lower (before ++ phrase ++ after)).count d := fun before after d hb
      ha => ((hfound before after hb ha).trans
        (trimBy_isInfix isBlank _)).sublist.count_le d
  have hletter : IsText ['a'] := isText_cons (by decide) .nil
  have hlone : ∀ before after, lowerAmid before after ['a'] = ['a'] :=
    fun _ _ => rfl
  have hsteady : steadyFrom [] phrase = true := by
    rw [← Bool.not_eq_false]
    intro hunsteady
    rcases lowerAmid_of_unsteady hunsteady with hlt | hlt
    · have hle := hcount ['a'] [] 'σ' hletter .nil
      have hnone : ['a'].count 'σ' = 0 := by decide
      rw [lower_around, hlone, lower_eq, lowerAmid, List.append_nil,
        List.count_append, hnone, Nat.zero_add] at hle
      exact absurd hle (Nat.not_le_of_lt hlt)
    · have hle := hcount [] ['a'] 'ς' .nil hletter
      rw [lower_around, hlone, lower_eq, List.count_append] at hle
      exact absurd hle (Nat.not_le_of_lt hlt)
  unfold isSelfContained
  rw [hopens, hcloses, hsteady]
  rfl

end Colloquy.Text
