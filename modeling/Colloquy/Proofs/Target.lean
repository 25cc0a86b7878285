/-
The compact texts of targets. A text has one head, which holds no colon, and
a message behind the first colon if there is one (`exists_spelt`); reading it
keeps both (`parse_spelt`). So nothing of a text is lost: writing what was
read gives the text again (`wire_parse`), and two texts are never read as the
same target.

The other way round a target comes back from its text just if it is canonical
(`parse_wire_iff`): an exit without a state, or a state whose key holds no
colon and is not the word for the way out. A key that holds a colon would be
cut there, the word would be taken for the way out, and a target without a
state would come back with the empty key.
-/
import Colloquy.Target
import Mathlib.Logic.Function.Basic

namespace Colloquy

-- ============================================================== cutting

namespace Text

theorem not_mem_fst_cutAt (c : Char) (text : List Char) :
    c ∉ (cutAt c text).1 := by
  induction text with
  | nil => exact List.not_mem_nil
  | cons d rest ih =>
      by_cases h : d = c
      · simp [cutAt, h]
      · simp [cutAt, h, ih, Ne.symm h]

theorem cutAt_of_not_mem {c : Char} {text : List Char} (h : c ∉ text) :
    cutAt c text = (text, none) := by
  induction text with
  | nil => rfl
  | cons d rest ih =>
      rw [List.mem_cons, not_or] at h
      simp [cutAt, Ne.symm h.1, ih h.2]

theorem cutAt_append {c : Char} {before : List Char} (h : c ∉ before)
    (after : List Char) :
    cutAt c (before ++ c :: after) = (before, some after) := by
  induction before with
  | nil => simp [cutAt]
  | cons d rest ih =>
      rw [List.mem_cons, not_or] at h
      simp [cutAt, Ne.symm h.1, ih h.2]

end Text

namespace Target

-- ======================================================= compact texts

/-- The text of a head, and of a message after a colon if there is one. -/
def spelt (head : String) : Option String → String
  | none => head
  | some message => head ++ ":" ++ message

theorem wire_eq (t : Target) :
    t.wire = spelt (if t.isExit then exitWord else t.state.getD "")
      t.message := by
  unfold wire spelt
  cases t.message <;> rfl

/-- What `parse` makes of a head without a colon, and of a message behind it.
-/
theorem parse_spelt {head : String} (h : ':' ∉ head.toList)
    (message : Option String) :
    parse (spelt head message)
      = if head = exitWord then { kind := .exit, message }
        else { kind := .goto, state := some head, message } := by
  unfold parse
  cases message with
  | none =>
      rw [spelt, Text.cutAt_of_not_mem h]
      simp
  | some message =>
      have htext : (head ++ ":" ++ message).toList
          = head.toList ++ ':' :: message.toList := by
        simp [String.toList_append]
      rw [spelt, htext, Text.cutAt_append h]
      simp

/-- Every text is `spelt` from a head without a colon and what stands behind
the first one. -/
theorem exists_spelt (text : String) :
    ∃ head message, ':' ∉ head.toList ∧ text = spelt head message := by
  have hcolon := Text.not_mem_fst_cutAt ':' text.toList
  have hjoin := Text.cutAt_join ':' text.toList
  generalize Text.cutAt ':' text.toList = cut at hcolon hjoin
  obtain ⟨head, after⟩ := cut
  refine ⟨String.ofList head, after.map String.ofList, by simpa using hcolon,
    ?_⟩
  apply String.toList_injective
  rw [← hjoin]
  cases after with
  | none => simp [spelt]
  | some message => simp [spelt, String.toList_append]

/-- Nothing of a text is lost when it is parsed: `wire` gives it back. -/
theorem wire_parse (text : String) : (parse text).wire = text := by
  obtain ⟨head, message, hcolon, rfl⟩ := exists_spelt text
  rw [parse_spelt hcolon, wire_eq]
  by_cases hword : head = exitWord
  · rw [if_pos hword, hword]
    rfl
  · rw [if_neg hword]
    rfl

/-- The message of what is `spelt` is the message that it was spelt with. -/
theorem message_parse_spelt {head : String} (h : ':' ∉ head.toList)
    (message : Option String) :
    (parse (spelt head message)).message = message := by
  rw [parse_spelt h]
  by_cases hword : head = exitWord
  · rw [if_pos hword]
  · rw [if_neg hword]

/-- The message of a text is the one that it is `spelt` with. -/
theorem message_parse_iff {text : String} {message : Option String} :
    (parse text).message = message
      ↔ ∃ head, ':' ∉ head.toList ∧ text = spelt head message := by
  constructor
  · intro h
    obtain ⟨head, behind, hcolon, rfl⟩ := exists_spelt text
    rw [message_parse_spelt hcolon] at h
    exact ⟨head, hcolon, h ▸ rfl⟩
  · rintro ⟨head, hcolon, rfl⟩
    exact message_parse_spelt hcolon message

-- ==================================================== canonical targets

/-- A key without a colon that is not `exitWord`, so that a compact text can
name it. -/
def IsKey (key : String) : Prop := ':' ∉ key.toList ∧ key ≠ exitWord

/-- An exit without a state, or a goto whose state is such a key (`IsKey`). -/
def Canonical (t : Target) : Prop :=
  match t.kind with
  | .exit => t.state = none
  | .goto => ∃ key, t.state = some key ∧ IsKey key

/-- What `parse` gives is `Canonical`. -/
theorem parse_canonical (text : String) : (parse text).Canonical := by
  obtain ⟨head, message, hcolon, rfl⟩ := exists_spelt text
  rw [parse_spelt hcolon]
  by_cases hword : head = exitWord
  · rw [if_pos hword]
    rfl
  · rw [if_neg hword]
    exact ⟨head, rfl, hcolon, hword⟩

/-- A `Canonical` target comes back from its `wire` text. -/
theorem parse_wire {t : Target} (h : t.Canonical) : parse t.wire = t := by
  obtain ⟨kind, state, message⟩ := t
  rw [wire_eq]
  cases kind with
  | exit =>
      have hstate : state = none := h
      have hexit : ':' ∉ exitWord.toList := by decide
      rw [hstate]
      exact (parse_spelt hexit message).trans (if_pos rfl)
  | goto =>
      obtain ⟨key, hstate, hcolon, hword⟩ := h
      have hstate : state = some key := hstate
      rw [hstate]
      exact (parse_spelt hcolon message).trans (if_neg hword)

/-- The `Canonical` targets are the ones that come back from their `wire`
texts. -/
theorem parse_wire_iff {t : Target} : parse t.wire = t ↔ t.Canonical := by
  constructor
  · intro h
    rw [← h]
    exact parse_canonical t.wire
  · exact parse_wire

/-- A target is `Canonical` if it is an exit without a state, or a goto to a
state whose key is not the word for the way out and holds no colon. -/
theorem canonical_iff {t : Target} :
    t.Canonical ↔ (t.kind = .exit ∧ t.state = none)
      ∨ (t.kind = .goto
        ∧ ∃ key, t.state = some key ∧ key ≠ "exit" ∧ ':' ∉ key.toList) := by
  obtain ⟨kind, state, message⟩ := t
  cases kind with
  | exit => simp [Canonical]
  | goto => simp [Canonical, IsKey, exitWord, and_comm]

/-- Texts and targets are read and written exactly: every text is written as it
was read, so that no two texts are read as one target, and the targets that are
read as they were written are the canonical ones. A message is told from none,
also where it is empty or holds colons of its own. -/
theorem parse_wire_exactly :
    (∀ text, (parse text).wire = text)
    ∧ (∀ t : Target, parse t.wire = t
        ↔ (t.kind = .exit ∧ t.state = none)
          ∨ (t.kind = .goto
            ∧ ∃ key, t.state = some key ∧ key ≠ "exit" ∧ ':' ∉ key.toList))
    ∧ Function.Injective parse
    ∧ (∀ text, (parse text).message = none ↔ ':' ∉ text.toList)
    ∧ ∀ text message, (parse text).message = some message
        ↔ ∃ head, ':' ∉ head.toList ∧ text = head ++ ":" ++ message := by
  have hleft : Function.LeftInverse wire parse := wire_parse
  refine ⟨wire_parse, ?_, hleft.injective, ?_, ?_⟩
  · intro t
    rw [parse_wire_iff]
    exact canonical_iff
  · intro text
    rw [message_parse_iff]
    constructor
    · rintro ⟨head, hcolon, rfl⟩
      exact hcolon
    · intro hcolon
      exact ⟨text, hcolon, rfl⟩
  · intro text message
    exact message_parse_iff

/-- A word that begins like the one for the way out is a key, and an empty
message is one. -/
example : parse "exits:"
    = { kind := .goto, state := some "exits", message := some "" } := by
  decide

end Target
end Colloquy
