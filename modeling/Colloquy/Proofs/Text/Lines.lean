/-
The lines of texts that stand under one another. Joined by line feeds, texts
have the lines of each in turn (`lines_stacked`), where no text holds a
carriage return, which could take a line feed with it, and none closes with
a line end, which a line feed would follow. A text without line ends is its
own only line; one with a line end between characters that are not blank
has two lines or more that are not blank.

# Any texts

Where a text closes with a carriage return, the line feed behind it belongs to
the same line end; where it closes with another line end, or is empty, the
line feed ends a line of its own, with nothing on it. Either way the lines that
say something are those of the one text and then those of the other one
(`spokenLines_joined`). And a text has the same lines, empty ones too, when all
its line ends are made one (`lines_unifyLineEnds`).
-/
import Colloquy.Text.Blank
import Colloquy.Text.Lines
import Mathlib.Data.List.Basic

namespace Colloquy.Text

/-- Whether a line is not all blank. -/
def saysSomething (line : List Char) : Bool := !isAllBlank line

/-- The text holds no carriage return, and does not close with a line end, so
that it can stand above another one. -/
structure Stackable (text : List Char) : Prop where
  noReturn : '\r' ∉ text
  closes : ∃ front last, text = front ++ [last] ∧ isBlank last = false

/-- Whatever ends a line is blank. -/
theorem isLineEnd_of_not_blank {c : Char} (h : isBlank c = false) :
    isLineEnd c = false := by
  by_contra hend
  rw [Bool.not_eq_false] at hend
  simp [isLineEnd, lineEnds, Ranges.covers] at hend
  simp [isBlank, blanks, Ranges.covers] at h
  omega

-- ============================================================= one line

/-- One step of `linesFrom`: a character that is no carriage return ends the
line, or is part of it. -/
theorem linesFrom_cons {c : Char} (hc : c ≠ '\r') (line rest : List Char) :
    linesFrom line (c :: rest)
      = if isLineEnd c then line.reverse :: linesFrom [] rest
        else linesFrom (c :: line) rest := by
  conv => lhs; unfold linesFrom
  split
  · contradiction
  · next heq =>
      cases heq
      exact absurd rfl hc
  · next heq =>
      cases heq
      rfl

/-- In `linesFrom`, a text without line ends is part of the line that it is on.
-/
theorem linesFrom_append {text : List Char}
    (h : ∀ c ∈ text, isLineEnd c = false) (line rest : List Char) :
    linesFrom line (text ++ rest) = linesFrom (text.reverse ++ line) rest := by
  induction text generalizing line with
  | nil => rfl
  | cons c text ih =>
      obtain ⟨hend, hrest⟩ := List.forall_mem_cons.1 h
      have hc : c ≠ '\r' := by
        rintro rfl
        revert hend
        decide
      rw [List.cons_append, linesFrom_cons hc, hend, if_neg Bool.false_ne_true,
        ih hrest]
      simp

/-- A text without line ends is the only one of its `lines`. -/
theorem lines_of_no_end {text : List Char} (hne : text ≠ [])
    (h : ∀ c ∈ text, isLineEnd c = false) : lines text = [text] := by
  have hline := linesFrom_append h [] []
  rw [List.append_nil, List.append_nil] at hline
  unfold lines
  rw [hline]
  simp [linesFrom, hne]

/-- One step of `linesFrom` over a carriage return and a line feed, which are
one line end. -/
theorem linesFrom_return_feed (line rest : List Char) :
    linesFrom line ('\r' :: '\n' :: rest)
      = line.reverse :: linesFrom [] rest := rfl

/-- One step of `linesFrom` over any character but a carriage return that
shares its end with a line feed. -/
theorem linesFrom_cons_of_apart {c : Char} {rest : List Char}
    (h : c = '\r' → ∀ more, rest ≠ '\n' :: more) (line : List Char) :
    linesFrom line (c :: rest)
      = if isLineEnd c then line.reverse :: linesFrom [] rest
        else linesFrom (c :: line) rest := by
  by_cases hc : c = '\r'
  · subst hc
    rw [if_pos (by decide)]
    cases rest with
    | nil => rfl
    | cons d rest =>
        conv => lhs; unfold linesFrom
        split
        · contradiction
        · next heq =>
            cases heq
            exact absurd rfl (h rfl _)
        · next heq =>
            cases heq
            exact if_pos (by decide)
  · exact linesFrom_cons hc line rest

-- ============================================================ many lines

/-- Below a text and a line feed, `linesFrom` goes on with the lines of the
rest. -/
theorem linesFrom_stack {text : List Char} (hreturn : '\r' ∉ text)
    (rest : List Char) : ∀ line, (text = [] → line ≠ []) →
      (∀ c, text.getLast? = some c → isLineEnd c = false) →
      linesFrom line (text ++ '\n' :: rest)
        = linesFrom line text ++ lines rest := by
  induction text with
  | nil =>
      -- the line feed ends a line that is not empty, and so would the text
      intro line hline _
      rw [List.nil_append, linesFrom_cons (by decide), if_pos (by decide)]
      simp [linesFrom, hline rfl, lines]
  | cons c text ih =>
      intro line _ hlast
      rw [List.mem_cons, not_or] at hreturn
      have hc : c ≠ '\r' := Ne.symm hreturn.1
      rw [List.cons_append, linesFrom_cons hc, linesFrom_cons hc]
      have hlast' : ∀ d, text.getLast? = some d → isLineEnd d = false := by
        intro d hd
        apply hlast
        rw [List.getLast?_cons, hd]
        rfl
      cases hend : isLineEnd c with
      | true =>
          have hmore : text ≠ [] := by
            rintro rfl
            rw [hlast c rfl] at hend
            cases hend
          rw [if_pos rfl, if_pos rfl, ih hreturn.2 [] (absurd · hmore) hlast']
          rfl
      | false =>
          rw [if_neg Bool.false_ne_true, if_neg Bool.false_ne_true,
            ih hreturn.2 (c :: line) (fun _ => List.cons_ne_nil c line) hlast']

theorem Stackable.ne_nil {text : List Char} (h : Stackable text) :
    text ≠ [] := by
  obtain ⟨front, last, heq, -⟩ := h.closes
  rw [heq]
  exact List.append_ne_nil_of_right_ne_nil _ (List.cons_ne_nil last [])

theorem Stackable.getLast {text : List Char} (h : Stackable text) :
    ∀ c, text.getLast? = some c → isLineEnd c = false := by
  obtain ⟨front, last, heq, hblank⟩ := h.closes
  intro c hc
  rw [heq, List.getLast?_concat] at hc
  cases hc
  exact isLineEnd_of_not_blank hblank

/-- If texts are `Stackable`, the lines of all of them, joined by line feeds,
are those of each in turn. -/
theorem lines_stacked {texts : List (List Char)}
    (h : ∀ text ∈ texts, Stackable text) :
    lines (['\n'].intercalate texts) = texts.flatMap lines := by
  induction texts with
  | nil => rfl
  | cons text texts ih =>
      obtain ⟨hfirst, hmore⟩ := List.forall_mem_cons.1 h
      have hrest := ih hmore
      cases texts with
      | nil => simp
      | cons next texts =>
          rw [List.intercalate_cons_cons, List.append_assoc,
            List.singleton_append]
          unfold lines at hrest ⊢
          rw [linesFrom_stack hfirst.noReturn _ []
            (absurd · hfirst.ne_nil) hfirst.getLast, List.flatMap_cons]
          unfold lines
          rw [hrest]

/-- A character of texts joined by line feeds is in one of them, if it is no
line feed. -/
theorem mem_stacked {c : Char} (hc : c ≠ '\n') {texts : List (List Char)} :
    c ∈ ['\n'].intercalate texts ↔ ∃ text ∈ texts, c ∈ text := by
  induction texts with
  | nil => simp
  | cons text texts ih =>
      cases texts with
      | nil => simp
      | cons next texts =>
          rw [List.intercalate_cons_cons, List.mem_append, List.mem_append, ih]
          simp [hc]

-- ================================================================ any texts

/-- Between the lines of a text and of another one below it there is at most an
empty one. -/
theorem linesFrom_joined (text rest : List Char) :
    ∀ line, ∃ gap, (∀ l ∈ gap, l = [])
      ∧ linesFrom line (text ++ '\n' :: rest)
        = linesFrom line text ++ (gap ++ lines rest) := by
  have hfeed : ∀ line, linesFrom line ('\n' :: rest)
      = line.reverse :: lines rest := fun line =>
    (linesFrom_cons (by decide) line rest).trans (if_pos (by decide))
  -- the induction takes a carriage return and its line feed in one step
  fun_induction unifyLineEnds text with
  | case1 =>
      intro line
      rw [List.nil_append, hfeed]
      cases line with
      | nil => exact ⟨[[]], List.forall_mem_singleton.2 rfl, rfl⟩
      | cons c line => exact ⟨[], nofun, by simp [linesFrom]⟩
  | case2 text ih =>
      intro line
      obtain ⟨gap, hgap, heq⟩ := ih []
      refine ⟨gap, hgap, ?_⟩
      rw [List.cons_append, List.cons_append, linesFrom_return_feed, heq]
      rfl
  | case3 c text hshared ih =>
      intro line
      have hapart : c = '\r' → ∀ more, text ≠ '\n' :: more :=
        fun hc more htext => hshared more hc htext
      by_cases hlast : c = '\r' ∧ text = []
      · -- the line feed goes with the carriage return that closes the text
        obtain ⟨rfl, rfl⟩ := hlast
        exact ⟨[], nofun, rfl⟩
      have hapart' : c = '\r' →
          ∀ more, text ++ '\n' :: rest ≠ '\n' :: more := by
        intro hc more htext
        cases text with
        | nil => exact hlast ⟨hc, rfl⟩
        | cons d text =>
            rw [List.cons_append, List.cons.injEq] at htext
            exact hapart hc text (congrArg (· :: text) htext.1)
      rw [List.cons_append, linesFrom_cons_of_apart hapart',
        linesFrom_cons_of_apart hapart]
      cases isLineEnd c with
      | true =>
          obtain ⟨gap, hgap, heq⟩ := ih []
          exact ⟨gap, hgap, congrArg (line.reverse :: ·) heq⟩
      | false => exact ih (c :: line)

/-- The `lines` of a text that `saysSomething` holds of. -/
def spokenLines (text : List Char) : List (List Char) :=
  (lines text).filter saysSomething

/-- The `spokenLines` of two texts with a line feed between them are those of
both. -/
theorem spokenLines_joined (text rest : List Char) :
    spokenLines (text ++ '\n' :: rest)
      = spokenLines text ++ spokenLines rest := by
  obtain ⟨gap, hgap, heq⟩ := linesFrom_joined text rest []
  have hsilent : gap.filter saysSomething = [] := by
    rw [List.filter_eq_nil_iff]
    intro l hl
    rw [hgap l hl]
    exact Bool.false_ne_true
  unfold spokenLines lines
  rw [heq, List.filter_append, List.filter_append, hsilent]
  rfl

/-- The same for texts joined by line feeds. -/
theorem spokenLines_intercalate (texts : List (List Char)) :
    spokenLines (['\n'].intercalate texts) = texts.flatMap spokenLines := by
  induction texts with
  | nil => rfl
  | cons text texts ih =>
      cases texts with
      | nil => simp
      | cons next texts =>
          rw [List.intercalate_cons_cons, List.append_assoc,
            List.singleton_append, spokenLines_joined, ih, ← List.flatMap_cons]

/-- After `unifyLineEnds`, a text has the same lines. -/
theorem linesFrom_unifyLineEnds (text : List Char) :
    ∀ line, linesFrom line (unifyLineEnds text) = linesFrom line text := by
  have hfeed : isLineEnd '\n' = true := by decide
  have hreturn : isLineEnd '\r' = true := by decide
  fun_induction unifyLineEnds text with
  | case1 => exact fun _ => rfl
  | case2 text ih =>
      intro line
      rw [linesFrom_return_feed, linesFrom_cons (by decide), if_pos hfeed, ih]
  | case3 c text hshared ih =>
      intro line
      have hapart : c = '\r' → ∀ more, text ≠ '\n' :: more :=
        fun hc more htext => hshared more hc htext
      rw [linesFrom_cons_of_apart hapart]
      by_cases hc : c = '\r'
      · rw [if_pos hc, linesFrom_cons (by decide), if_pos hfeed, hc,
          if_pos hreturn, ih]
      · rw [if_neg hc, linesFrom_cons hc, ih, ih]

theorem lines_unifyLineEnds (text : List Char) :
    lines (unifyLineEnds text) = lines text := linesFrom_unifyLineEnds text []

-- ================================================= lines that say something

theorem saysSomething_iff {line : List Char} :
    saysSomething line = true ↔ ∃ c ∈ line, isBlank c = false := by
  simp [saysSomething, isAllBlank]

theorem ne_return_of_not_blank {c : Char} (h : isBlank c = false) :
    c ≠ '\r' := by
  rintro rfl
  revert h
  decide

section Closing

variable {last : Char} (hlast : isBlank last = false)
include hlast

/-- The line of `last`, a character that is not blank, is one that
`saysSomething`. -/
theorem exists_saying {front : List Char} (hreturn : '\r' ∉ front) :
    ∀ line, ∃ l ∈ linesFrom line (front ++ [last]),
      saysSomething l = true := by
  induction front with
  | nil =>
      intro line
      have hline : linesFrom line [last] = [(last :: line).reverse] := by
        rw [linesFrom_cons (ne_return_of_not_blank hlast),
          isLineEnd_of_not_blank hlast, if_neg Bool.false_ne_true]
        rfl
      refine ⟨(last :: line).reverse, ?_, saysSomething_iff.2 ?_⟩
      · rw [List.nil_append, hline]
        exact List.mem_singleton_self _
      · exact ⟨last, by simp, hlast⟩
  | cons c front ih =>
      intro line
      rw [List.mem_cons, not_or] at hreturn
      rw [List.cons_append, linesFrom_cons (Ne.symm hreturn.1)]
      cases isLineEnd c with
      | true =>
          obtain ⟨l, hl, hsays⟩ := ih hreturn.2 []
          exact ⟨l, List.mem_cons_of_mem _ hl, hsays⟩
      | false => exact ih hreturn.2 (c :: line)

/-- A line end between characters that are not blank sets them on two lines. -/
theorem two_le_countP_linesFrom {front : List Char} (hreturn : '\r' ∉ front)
    (hend : ∃ c ∈ front, isLineEnd c = true) :
    ∀ line, saysSomething line.reverse = true →
      2 ≤ (linesFrom line (front ++ [last])).countP saysSomething := by
  induction front with
  | nil =>
      obtain ⟨c, hc, -⟩ := hend
      cases hc
  | cons c front ih =>
      intro line hline
      rw [List.mem_cons, not_or] at hreturn
      rw [List.cons_append, linesFrom_cons (Ne.symm hreturn.1)]
      cases hc : isLineEnd c with
      | true =>
          have hmore := List.countP_pos_iff.2
            (exists_saying hlast hreturn.2 [])
          rw [if_pos rfl, List.countP_cons_of_pos hline]
          omega
      | false =>
          have hrest : ∃ d ∈ front, isLineEnd d = true := by
            obtain ⟨d, hd, hdend⟩ := hend
            rcases List.mem_cons.1 hd with rfl | hd
            · rw [hc] at hdend
              cases hdend
            · exact ⟨d, hd, hdend⟩
          have hlonger : saysSomething (c :: line).reverse = true := by
            obtain ⟨d, hd, hblank⟩ := saysSomething_iff.1 hline
            rw [List.mem_reverse] at hd
            exact saysSomething_iff.2
              ⟨d, List.mem_reverse.2 (List.mem_cons_of_mem _ hd), hblank⟩
          rw [if_neg Bool.false_ne_true]
          exact ih hreturn.2 hrest (c :: line) hlonger

end Closing

/-- A `Stackable` text has a line that `saysSomething`. -/
theorem Stackable.one_le_countP_lines {text : List Char}
    (h : Stackable text) : 1 ≤ (lines text).countP saysSomething := by
  obtain ⟨front, last, rfl, hlast⟩ := h.closes
  have hreturn : '\r' ∉ front := fun hmem =>
    h.noReturn (List.mem_append_left _ hmem)
  exact List.countP_pos_iff.2 (exists_saying hlast hreturn [])

/-- A `Stackable` text that opens with a character that is not blank, and has a
line end inside, has two lines that `saysSomething` holds of. -/
theorem Stackable.two_le_countP_lines {first : Char} {rest : List Char}
    (h : Stackable (first :: rest)) (hfirst : isBlank first = false)
    (hend : ∃ c ∈ rest, isLineEnd c = true) :
    2 ≤ (lines (first :: rest)).countP saysSomething := by
  obtain ⟨front, last, heq, hlast⟩ := h.closes
  have hreturn := h.noReturn
  rw [List.mem_cons, not_or] at hreturn
  cases front with
  | nil =>
      cases heq
      obtain ⟨c, hc, -⟩ := hend
      cases hc
  | cons c front =>
      cases heq
      have hinside : ∃ c ∈ front, isLineEnd c = true := by
        obtain ⟨c, hc, hcend⟩ := hend
        rcases List.mem_append.1 hc with hc | hc
        · exact ⟨c, hc, hcend⟩
        · rw [List.mem_singleton.1 hc, isLineEnd_of_not_blank hlast] at hcend
          cases hcend
      unfold lines
      rw [linesFrom_cons (ne_return_of_not_blank hfirst),
        isLineEnd_of_not_blank hfirst, if_neg Bool.false_ne_true]
      exact two_le_countP_linesFrom hlast
        (fun hmem => hreturn.2 (List.mem_append_left _ hmem)) hinside _
        (saysSomething_iff.2 ⟨first, by simp, hfirst⟩)

section Counts

variable {texts : List (List Char)} (h : ∀ text ∈ texts, Stackable text)
include h

theorem length_le_countP_lines :
    texts.length ≤ (texts.flatMap lines).countP saysSomething := by
  induction texts with
  | nil => exact Nat.zero_le _
  | cons text texts ih =>
      obtain ⟨hfirst, hmore⟩ := List.forall_mem_cons.1 h
      have hone := hfirst.one_le_countP_lines
      have hrest := ih hmore
      rw [List.flatMap_cons, List.countP_append, List.length_cons]
      omega

/-- If one of several `Stackable` texts has two lines that `saysSomething`
holds of, there are more such lines than texts. -/
theorem length_lt_countP_lines
    (hmore : ∃ text ∈ texts, 2 ≤ (lines text).countP saysSomething) :
    texts.length < (texts.flatMap lines).countP saysSomething := by
  induction texts with
  | nil =>
      obtain ⟨text, hmem, -⟩ := hmore
      cases hmem
  | cons text texts ih =>
      obtain ⟨hfirst, hrest⟩ := List.forall_mem_cons.1 h
      rw [List.flatMap_cons, List.countP_append, List.length_cons]
      obtain ⟨long, hmem, htwo⟩ := hmore
      rcases List.mem_cons.1 hmem with rfl | hmem
      · have hothers := length_le_countP_lines hrest
        omega
      · have hone := hfirst.one_le_countP_lines
        have hothers := ih hrest ⟨long, hmem, htwo⟩
        omega

end Counts

end Colloquy.Text
