/-
Finding one text inside another, by characters or by code points.
-/

namespace Colloquy.Text

universe u

variable {α : Type u} [DecidableEq α]

/-- Whether `phrase` stands somewhere in `text`. -/
def occursIn (phrase : List α) : List α → Bool
  | [] => phrase.isEmpty
  | c :: rest => phrase.isPrefixOf (c :: rest) || occursIn phrase rest

/-- What stands before the first `c` and, if there is one, what stands after
it. -/
def cutAt (c : Char) : List Char → List Char × Option (List Char)
  | [] => ([], none)
  | d :: rest =>
    if d = c then ([], some rest)
    else match cutAt c rest with
      | (before, after) => (d :: before, after)

/-- The parts of `text` between the characters `c`. -/
def splitAt (c : Char) : List Char → List (List Char)
  | [] => [[]]
  | d :: rest =>
    if d = c then [] :: splitAt c rest
    else match splitAt c rest with
      | [] => [[d]]
      | part :: more => (d :: part) :: more

/-- A phrase occurs in a text exactly when the text is something, the phrase,
and something more. -/
theorem occursIn_iff {phrase text : List α} :
    occursIn phrase text = true
      ↔ ∃ before after, text = before ++ phrase ++ after := by
  induction text with
  | nil =>
    simp only [occursIn, List.isEmpty_iff]
    constructor
    · rintro rfl; exact ⟨[], [], rfl⟩
    · rintro ⟨before, after, h⟩; simp at h; exact h.2.1
  | cons c rest ih =>
    simp only [occursIn, Bool.or_eq_true, ih, List.isPrefixOf_iff_prefix]
    constructor
    · rintro (⟨after, h⟩ | ⟨before, after, h⟩)
      · exact ⟨[], after, by simp [h]⟩
      · exact ⟨c :: before, after, by simp [h]⟩
    · rintro ⟨before, after, h⟩
      cases before with
      | nil => exact Or.inl ⟨after, by simpa using h.symm⟩
      | cons d before =>
        simp only [List.cons_append, List.cons.injEq] at h
        exact Or.inr ⟨before, after, h.2⟩

/-- The parts before and after the first `c`, put together again, are the
text. -/
theorem cutAt_join (c : Char) (text : List Char) :
    (cutAt c text).1 ++ ((cutAt c text).2.map (c :: ·)).getD [] = text := by
  induction text with
  | nil => rfl
  | cons d rest ih =>
    by_cases h : d = c
    · simp [cutAt, h]
    · simp [cutAt, h, ih]

end Colloquy.Text
