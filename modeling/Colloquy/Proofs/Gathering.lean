/-
Texts gathered in a buffer. A handler puts every text behind the ones before
it, with its separator between two of them, so from an empty buffer a handler
that leads its texts makes one line of items out of them (`gathered_items`).
A handler that puts nothing in front of a text leaves the buffer empty until
the first text that is not, and from there on does the same (`gathered_plain`).

A separator that is one blank separates words too: no word reaches across
it (`Text.words_append_blank`). So a turn adds the same number of words to any
buffer (`Spaces.wordCount_run`), however many blanks the buffer or the text
begins or ends with, and also where one of them is empty. The induction is over
turns of which each may be by another handler (`wordCount_runEach`); texts that
one handler gathers are a case of it.
-/
import Colloquy.Handler
import Colloquy.Proofs.Text.Words
import Mathlib.Algebra.GroupWithZero.Nat
import Mathlib.Data.List.Basic

namespace Colloquy

-- ============================================================== buffers

namespace Handler

/-- The buffer after the handler gathered `text`. -/
def extend (h : Handler) (buffer text : String) : String :=
  buffer ++ h.addition buffer.isEmpty text

/-- The buffer after the handler gathered each of `texts`. -/
def gathered (h : Handler) (buffer : String) (texts : List String) : String :=
  texts.foldl h.extend buffer

/-- The text that the handler puts between two texts (`between`) is a single
blank. -/
def Spaces (h : Handler) : Prop :=
  ∃ c, Text.isBlank c = true ∧ h.between.toList = [c]

variable {h : Handler} {buffer : String}

theorem extend_empty (h : Handler) (text : String) :
    h.extend "" text = h.lead ++ text := by
  show "" ++ ("" ++ h.lead ++ text) = _
  rw [String.empty_append, String.empty_append]

theorem extend_of_ne (hbuffer : buffer ≠ "") (h : Handler) (text : String) :
    h.extend buffer text = buffer ++ h.between ++ (h.lead ++ text) := by
  have hempty : buffer.isEmpty = false := by
    rw [Bool.eq_false_iff]
    exact fun hempty => hbuffer (String.isEmpty_iff.1 hempty)
  unfold extend addition
  rw [hempty, if_neg Bool.false_ne_true, String.append_assoc,
    String.append_assoc]

/-- Onto a buffer that is not empty, the texts are joined by `between`, each
after `lead`. -/
theorem gathered_of_ne (hbuffer : buffer ≠ "") (h : Handler)
    (texts : List String) :
    h.gathered buffer texts
      = h.between.intercalate (buffer :: texts.map (h.lead ++ ·)) := by
  induction texts generalizing buffer with
  | nil => exact String.intercalate_singleton.symm
  | cons text rest ih =>
      have hextended : h.extend buffer text ≠ "" := by
        rw [extend_of_ne hbuffer]
        simp [hbuffer]
      show h.gathered (h.extend buffer text) rest = _
      rw [ih hextended, extend_of_ne hbuffer, List.map_cons,
        String.intercalate_cons_append, String.intercalate_cons_cons]

/-- Onto an empty buffer, a handler with a `lead` joins the texts by `between`,
each after its `lead`. -/
theorem gathered_items (hlead : h.lead ≠ "") (texts : List String) :
    h.gathered "" texts
      = h.between.intercalate (texts.map (h.lead ++ ·)) := by
  cases texts with
  | nil => rfl
  | cons text rest =>
      show h.gathered (h.extend "" text) rest = _
      rw [extend_empty]
      exact gathered_of_ne (by simp [hlead]) h rest

/-- Onto an empty buffer, a handler without a `lead` joins the texts by
`between`, from the first one that is not empty on. -/
theorem gathered_plain (hlead : h.lead = "") (texts : List String) :
    h.gathered "" texts
      = h.between.intercalate (texts.dropWhile String.isEmpty) := by
  induction texts with
  | nil => rfl
  | cons text rest ih =>
      show h.gathered (h.extend "" text) rest = _
      rw [extend_empty, hlead, String.empty_append]
      by_cases htext : text = ""
      · rw [htext]
        exact ih
      · have hstays : (text :: rest).dropWhile String.isEmpty
            = text :: rest := by
          apply List.dropWhile_cons_of_neg
          simpa [String.isEmpty_iff] using htext
        rw [gathered_of_ne htext, hstays]
        simp [hlead]

-- ============================================================= contexts

/-- The context after the handler took each of `texts` in a turn of its own. -/
def taking (h : Handler) (texts : List String) (ctx : Context) : Context :=
  texts.foldl (fun ctx text => h.run text ctx.countTurn) ctx

/-- What `taking` changes is the buffer, which is `gathered`, and both
counters. -/
theorem taking_eq (h : Handler) (texts : List String) (ctx : Context) :
    h.taking texts ctx
      = { ctx with
          buffer := h.gathered ctx.buffer texts
          turnCount := ctx.turnCount + texts.length
          stateTurnCount := ctx.stateTurnCount + texts.length } := by
  induction texts generalizing ctx with
  | nil =>
      obtain ⟨buffer, metadata, turns, stateTurns⟩ := ctx
      simp [taking, gathered]
  | cons text rest ih =>
      show h.taking rest (h.run text ctx.countTurn) = _
      rw [ih]
      have hcount : ∀ n : Int,
          n + 1 + (rest.length : Int) = n + ((text :: rest).length : Nat) := by
        intro n
        rw [List.length_cons]
        omega
      show ({ ctx with
        buffer := h.gathered (h.extend ctx.buffer text) rest
        turnCount := ctx.turnCount + 1 + rest.length
        stateTurnCount := ctx.stateTurnCount + 1 + rest.length } : Context) = _
      rw [hcount, hcount]
      rfl

/-- The context after each text was gathered by the handler beside it. -/
def runEach (turns : List (Handler × String)) (ctx : Context) : Context :=
  turns.foldl (fun ctx turn => turn.1.run turn.2 ctx) ctx

/-- With one handler throughout, `runEach` changes the buffer alone, which is
`gathered`. -/
theorem runEach_one (h : Handler) (texts : List String) (ctx : Context) :
    runEach (texts.map (h, ·)) ctx
      = { ctx with buffer := h.gathered ctx.buffer texts } := by
  induction texts generalizing ctx with
  | nil => rfl
  | cons text rest ih =>
      show runEach (rest.map (h, ·)) (h.run text ctx) = _
      rw [ih]
      rfl

-- =============================================================== words

/-- A text adds to the words of the buffer its own, with those of the `lead`.
-/
theorem Spaces.wordCount_extend (hh : h.Spaces) (buffer text : String) :
    Text.wordCount (h.extend buffer text)
      = Text.wordCount buffer + Text.wordCount (h.lead ++ text) := by
  by_cases hbuffer : buffer = ""
  · rw [hbuffer, extend_empty, Text.wordCount_empty, Nat.zero_add]
  · obtain ⟨c, hc, hbetween⟩ := hh
    rw [extend_of_ne hbuffer, Text.wordCount_append_blank hc hbetween]

/-- The same for `run` and the `wordCount` of a context. -/
theorem Spaces.wordCount_run (hh : h.Spaces) (text : String) (ctx : Context) :
    (h.run text ctx).wordCount
      = ctx.wordCount + Text.wordCount (h.lead ++ text) :=
  hh.wordCount_extend ctx.buffer text

/-- The words of `runEach` are summed turn by turn, whichever handler takes
which turn. -/
theorem wordCount_runEach {turns : List (Handler × String)}
    (hturns : ∀ turn ∈ turns, turn.1.Spaces) (ctx : Context) :
    (runEach turns ctx).wordCount
      = ctx.wordCount
        + (turns.map fun turn =>
          Text.wordCount (turn.1.lead ++ turn.2)).sum := by
  induction turns generalizing ctx with
  | nil => rfl
  | cons turn rest ih =>
      rw [List.forall_mem_cons] at hturns
      obtain ⟨hturn, hrest⟩ := hturns
      show (runEach rest (turn.1.run turn.2 ctx)).wordCount = _
      rw [ih hrest, hturn.wordCount_run, List.map_cons, List.sum_cons,
        Nat.add_assoc]

/-- The words of `gathered` are summed text by text. -/
theorem Spaces.wordCount_gathered (hh : h.Spaces) (buffer : String)
    (texts : List String) :
    Text.wordCount (h.gathered buffer texts)
      = Text.wordCount buffer
        + (texts.map fun text => Text.wordCount (h.lead ++ text)).sum := by
  have hturns : ∀ turn ∈ texts.map (h, ·), turn.1.Spaces := by
    intro turn hturn
    obtain ⟨text, -, rfl⟩ := List.mem_map.1 hturn
    exact hh
  have hcount := wordCount_runEach hturns { buffer }
  rw [runEach_one, List.map_map] at hcount
  exact hcount

-- ======================================================= the two handlers

theorem accumulate_spaces : accumulate.Spaces := ⟨' ', rfl, rfl⟩

theorem bullets_spaces : bullets.Spaces := ⟨'\n', rfl, rfl⟩

theorem lead_accumulate (text : String) : accumulate.lead ++ text = text :=
  String.empty_append

/-- The `lead` of `bullets` is one more word. -/
theorem wordCount_item (text : String) :
    Text.wordCount (bullets.lead ++ text) = Text.wordCount text + 1 := by
  have hmark : bullets.lead = "-" ++ " " := by decide
  have hone : Text.wordCount "-" = 1 := by decide
  have hc : Text.isBlank ' ' = true := rfl
  rw [hmark, Text.wordCount_append_blank hc rfl, hone, Nat.add_comm]

/-- What `accumulate` gathers has the words of the texts. -/
theorem wordCount_accumulated (buffer : String) (texts : List String) :
    Text.wordCount (accumulate.gathered buffer texts)
      = Text.wordCount buffer + (texts.map Text.wordCount).sum := by
  rw [accumulate_spaces.wordCount_gathered]
  simp only [lead_accumulate]

/-- What `bullets` gathers has the words of the texts and one more for each. -/
theorem wordCount_itemised (buffer : String) (texts : List String) :
    Text.wordCount (bullets.gathered buffer texts)
      = Text.wordCount buffer
        + (texts.map fun text => Text.wordCount text + 1).sum := by
  rw [bullets_spaces.wordCount_gathered]
  simp only [wordCount_item]

theorem spaces_of_either (hh : h = accumulate ∨ h = bullets) : h.Spaces := by
  rcases hh with rfl | rfl
  · exact accumulate_spaces
  · exact bullets_spaces

/-- What one text adds to the words, for `accumulate` and for `bullets`. -/
theorem wordCount_led (hh : h = accumulate ∨ h = bullets) (text : String) :
    Text.wordCount (h.lead ++ text)
      = Text.wordCount text + if h = bullets then 1 else 0 := by
  rcases hh with rfl | rfl
  · rw [lead_accumulate, if_neg (by decide), Nat.add_zero]
  · rw [wordCount_item, if_pos rfl]

/-- Gathering is composed of its turns. Of the words, which are the runs of
characters that are not blank, each text adds its own to those of any buffer,
and an item one more, in any mixture of the two handlers. From an empty buffer
the one handler joins the texts by spaces, from the first that is not empty
on, and the other makes them the lines of a list. -/
theorem runEach_composes (texts : List String)
    {turns : List (Handler × String)}
    (hturns : ∀ turn ∈ turns, turn.1 = accumulate ∨ turn.1 = bullets)
    (ctx : Context) :
    (runEach (texts.map (accumulate, ·)) ctx).wordCount
        = ctx.wordCount + (texts.map Text.wordCount).sum
    ∧ runEach (texts.map (accumulate, ·)) { ctx with buffer := "" }
        = { ctx with
            buffer := " ".intercalate (texts.dropWhile String.isEmpty) }
    ∧ (runEach (texts.map (bullets, ·)) ctx).wordCount
        = ctx.wordCount + (texts.map fun text => Text.wordCount text + 1).sum
    ∧ runEach (texts.map (bullets, ·)) { ctx with buffer := "" }
        = { ctx with buffer := "\n".intercalate (texts.map ("- " ++ ·)) }
    ∧ (runEach turns ctx).wordCount
        = ctx.wordCount
          + (turns.map fun turn =>
              Text.wordCount turn.2 + if turn.1 = bullets then 1 else 0).sum
    ∧ ∀ text n, Text.wordCount text = n
        ↔ ∃ runs, Text.Runs text.toList runs ∧ runs.length = n := by
  refine ⟨?_, ?_, ?_, ?_, ?_, fun text n => Text.wordCount_eq_iff⟩
  · rw [runEach_one]
    exact wordCount_accumulated ctx.buffer texts
  · rw [runEach_one, gathered_plain rfl]
    rfl
  · rw [runEach_one]
    exact wordCount_itemised ctx.buffer texts
  · rw [runEach_one, gathered_items (by decide)]
    rfl
  · have hspaces : ∀ turn ∈ turns, turn.1.Spaces := fun turn hturn =>
      spaces_of_either (hturns turn hturn)
    have hled : (turns.map fun turn => Text.wordCount (turn.1.lead ++ turn.2))
        = turns.map fun turn =>
            Text.wordCount turn.2 + if turn.1 = bullets then 1 else 0 :=
      List.map_congr_left fun turn hturn =>
        wordCount_led (hturns turn hturn) turn.2
    rw [wordCount_runEach hspaces, hled]

/-- Turns of both handlers, some of the texts without a word. -/
def medley : List (Handler × String) :=
  [(accumulate, ""), (bullets, " milk\u3000eggs "), (accumulate, "\t"),
    (bullets, "")]

/-- For `medley`, behind two words and a blank, there are two more words in the
end, and two marks. -/
theorem runEach_composes_medley :
    (∀ turn ∈ medley, turn.1 = accumulate ∨ turn.1 = bullets)
    ∧ (runEach medley { buffer := "so far " }).wordCount = 6 := by
  have hturns : ∀ turn ∈ medley, turn.1 = accumulate ∨ turn.1 = bullets := by
    decide
  obtain ⟨-, -, -, -, hcount, -⟩ :=
    runEach_composes [] hturns { buffer := "so far " }
  refine ⟨hturns, ?_⟩
  rw [hcount]
  decide

end Handler
end Colloquy
