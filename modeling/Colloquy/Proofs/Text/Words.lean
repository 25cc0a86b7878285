/-
Words. The words of a text are its maximal runs of characters that are not
blank: each of them begins where the text does or behind a blank, and ends
where the text does or before a blank (`Runs`). That says which list the words
are (`words_eq_iff`), and so how many there are (`wordCount_eq_iff`).

No word reaches across a blank (`words_append_blank`). So the words of two
texts with a blank between them are those of the one and then those of the
other, whether or not there are more blanks beside it and where a text is
empty. Without a blank the last word of the one text and the first of the
other would be one word.
-/
import Colloquy.Text.Blank

namespace Colloquy.Text

-- ================================================================ runs

/-- The characters are not none, and none of them is blank. -/
def IsRun (run : List Char) : Prop := run ≠ [] ∧ ∀ c ∈ run, isBlank c = false

theorem isRun_singleton {c : Char} (hc : isBlank c = false) : IsRun [c] :=
  ⟨List.cons_ne_nil c [], List.forall_mem_singleton.2 hc⟩

/-- The runs of characters that are not blank, from the front of a text on. A
run ends with the text or before a blank, so it reaches as far as it can. -/
inductive Runs : List Char → List (List Char) → Prop
  | done : Runs [] []
  | blank {c : Char} {rest : List Char} {runs : List (List Char)}
      (hc : isBlank c = true) (hrest : Runs rest runs) : Runs (c :: rest) runs
  | run {run rest : List Char} {runs : List (List Char)} (hrun : IsRun run)
      (hend : ∀ c ∈ rest.head?, isBlank c = true) (hrest : Runs rest runs) :
      Runs (run ++ rest) (run :: runs)

/-- A character that is not blank, in front of one that is not, lengthens the
first of the `Runs`. -/
theorem Runs.letter {c : Char} {text run : List Char}
    {more : List (List Char)} (hc : isBlank c = false)
    (hstart : ∀ d ∈ text.head?, isBlank d = false)
    (h : Runs text (run :: more)) : Runs (c :: text) ((c :: run) :: more) := by
  cases h with
  | @blank d _ _ hd _ =>
      have hd' := hstart d rfl
      rw [hd] at hd'
      cases hd'
  | run hrun hend hrest =>
      have hlonger : IsRun (c :: run) :=
        ⟨List.cons_ne_nil c run, List.forall_mem_cons.2 ⟨hc, hrun.2⟩⟩
      exact .run hlonger hend hrest

-- =============================================================== words

variable {c d : Char}

/-- A blank in front does not change the `words`. -/
theorem words_blank (hc : isBlank c = true) (rest : List Char) :
    words (c :: rest) = words rest := if_pos hc

/-- A character in front that is not blank joins the first of the `words`, or
is a word of its own. -/
theorem words_letter (hc : isBlank c = false) (rest : List Char) :
    words (c :: rest)
      = match rest, words rest with
        | d :: _, word :: more =>
          if isBlank d then [c] :: word :: more else (c :: word) :: more
        | _, more => [c] :: more := if_neg (Bool.eq_false_iff.1 hc)

theorem words_singleton (hc : isBlank c = false) : words [c] = [[c]] :=
  words_letter hc []

/-- A character that is not blank, before a blank, is one of the `words`. -/
theorem words_closed (hc : isBlank c = false) (hd : isBlank d = true)
    (rest : List Char) : words (c :: d :: rest) = [c] :: words rest := by
  rw [words_letter hc, ← words_blank hd rest]
  cases words (d :: rest) with
  | nil => rfl
  | cons word more => exact if_pos hd

/-- A character that is not blank, before another one, opens the first of the
`words`. -/
theorem words_open (hc : isBlank c = false) (hd : isBlank d = false)
    (rest : List Char) :
    ∃ word more, words (d :: rest) = word :: more
      ∧ words (c :: d :: rest) = (c :: word) :: more := by
  have hsome : ∃ word more, words (d :: rest) = word :: more := by
    rw [words_letter hd]
    split
    · next e _ word more _ =>
        by_cases he : isBlank e = true
        · exact ⟨_, _, if_pos he⟩
        · exact ⟨_, _, if_neg he⟩
    · exact ⟨_, _, rfl⟩
  obtain ⟨word, more, hword⟩ := hsome
  refine ⟨word, more, hword, ?_⟩
  rw [words_letter hc, hword]
  exact if_neg (Bool.eq_false_iff.1 hd)

/-- The `words` of two texts with a blank between them are those of both. -/
theorem words_append_blank (hc : isBlank c = true) (back : List Char) :
    ∀ front, words (front ++ c :: back) = words front ++ words back
  | [] => words_blank hc back
  | [d] => by
      cases hd : isBlank d with
      | true =>
          show words (d :: c :: back) = _
          rw [words_blank hd, words_blank hc, words_blank hd]
          rfl
      | false =>
          show words (d :: c :: back) = _
          rw [words_closed hd hc, words_singleton hd]
          rfl
  | d :: e :: rest => by
      have ih := words_append_blank hc back (e :: rest)
      show words (d :: (e :: rest ++ c :: back)) = _
      cases hd : isBlank d with
      | true => rw [words_blank hd, words_blank hd, ih]
      | false =>
          cases he : isBlank e with
          | true =>
              rw [List.cons_append, words_blank he, words_blank he] at ih
              rw [List.cons_append, words_closed hd he, words_closed hd he,
                ih]
              rfl
          | false =>
              -- the two sides are in the same word, before the blank or
              -- without it
              obtain ⟨word, more, hword, hopen⟩ := words_open hd he rest
              obtain ⟨word', more', hword', hopen'⟩ :=
                words_open hd he (rest ++ c :: back)
              rw [List.cons_append] at ih ⊢
              rw [hword, hword'] at ih
              rw [hopen, hopen']
              obtain ⟨rfl, rfl⟩ := List.cons.inj ih
              rfl

@[simp] theorem wordCount_empty : wordCount "" = 0 := rfl

/-- The `wordCount` of two texts with a blank between them is that of both. -/
theorem wordCount_append_blank {between : String}
    (hc : isBlank c = true) (hbetween : between.toList = [c])
    (front back : String) :
    wordCount (front ++ between ++ back)
      = wordCount front + wordCount back := by
  unfold wordCount
  rw [String.toList_append, String.toList_append, hbetween,
    List.append_assoc, List.singleton_append, words_append_blank hc,
    List.length_append]

/-- Characters that are a run (`IsRun`) are one word. -/
theorem words_of_isRun {run : List Char} (h : IsRun run) :
    words run = [run] := by
  obtain ⟨hne, hletters⟩ := h
  induction run with
  | nil => exact absurd rfl hne
  | cons c rest ih =>
      rw [List.forall_mem_cons] at hletters
      obtain ⟨hc, hrest⟩ := hletters
      cases rest with
      | nil => exact words_singleton hc
      | cons d rest =>
          have hd := hrest d List.mem_cons_self
          obtain ⟨word, more, hword, hopen⟩ := words_open hc hd rest
          rw [ih (List.cons_ne_nil d rest) hrest] at hword
          obtain ⟨rfl, rfl⟩ := List.cons.inj hword
          exact hopen

/-- The `words` of a text are its `Runs`. The first two characters tell whether
a run goes on from the one to the other, so the induction is over both. -/
theorem runs_words : ∀ text, Runs text (words text)
  | [] => .done
  | [c] => by
      cases hc : isBlank c with
      | true =>
          rw [words_blank hc]
          exact .blank hc .done
      | false =>
          rw [words_singleton hc]
          exact .run (isRun_singleton hc) nofun .done
  | c :: d :: rest => by
      have ih := runs_words (d :: rest)
      cases hc : isBlank c with
      | true =>
          rw [words_blank hc]
          exact .blank hc ih
      | false =>
          cases hd : isBlank d with
          | true =>
              rw [words_blank hd] at ih
              rw [words_closed hc hd]
              exact .run (isRun_singleton hc) (by simpa using hd) ih
          | false =>
              obtain ⟨word, more, hword, hopen⟩ := words_open hc hd rest
              rw [hword] at ih
              rw [hopen]
              exact ih.letter hc (by simpa using hd)

/-- The `Runs` of a text are its `words`. -/
theorem Runs.words_eq {text : List Char} {runs : List (List Char)}
    (h : Runs text runs) : words text = runs := by
  induction h with
  | done => rfl
  | blank hc _ ih => rw [words_blank hc, ih]
  | @run run rest runs hrun hend _ ih =>
      rw [← ih]
      cases rest with
      | nil =>
          rw [List.append_nil]
          exact words_of_isRun hrun
      | cons c rest =>
          have hc : isBlank c = true := hend c rfl
          rw [words_append_blank hc, words_blank hc, words_of_isRun hrun]
          rfl

/-- The `words` of a text are its `Runs`. -/
theorem words_eq_iff {text : List Char} {runs : List (List Char)} :
    words text = runs ↔ Runs text runs := by
  constructor
  · intro h
    rw [← h]
    exact runs_words text
  · exact Runs.words_eq

/-- The `wordCount` of a text is the number of its `Runs`. -/
theorem wordCount_eq_iff {text : String} {n : Nat} :
    wordCount text = n ↔ ∃ runs, Runs text.toList runs ∧ runs.length = n := by
  unfold wordCount
  simp only [← words_eq_iff, exists_eq_left']

end Colloquy.Text
