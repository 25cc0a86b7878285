/-
The record form of a definition: a JSON object with one member for each part of
it. Targets stand in their compact text.

Reading checks the record and takes only what is sound; what it takes has every
state under its own id and no negative cap. Members that are not part of the
form are passed over. Writing checks the same two conditions, since a
definition that was built by hand may break them; a cap is checked state by
state, before the ids.
-/
import Colloquy.Checked
import Colloquy.Definition
import Colloquy.Number.Whole

namespace Colloquy
namespace Record

/-- How reports name a workflow. -/
def workflowTitle : String := "WorkflowRecord"

/-- How reports name a state. -/
def stateTitle : String := "StateRecord"

/-- How reports name the hints for presentation. -/
def presentationTitle : String := "UiRecord"

-- ============================================================ fields

/-- The id of a workflow or a state. -/
def idField : Field := .named "id"

/-- The intent that activates a workflow. -/
def triggerField : Field := ⟨"triggerIntent", "trigger_intent"⟩

/-- The state that a workflow starts in. -/
def initialField : Field := ⟨"initialState", "initial_state"⟩

/-- The phrases that end a workflow. -/
def exitPhrasesField : Field := ⟨"exitPhrases", "exit_phrases"⟩

/-- The message at the end of a workflow. -/
def exitMessageField : Field := ⟨"exitMessage", "exit_message"⟩

/-- The states of a workflow. -/
def statesField : Field := .named "states"

/-- The hints for presentation. -/
def presentationField : Field := .named "ui"

/-- The message on entering a state. -/
def onEnterField : Field := ⟨"onEnter", "on_enter"⟩

/-- The transitions of a state. -/
def transitionsField : Field := .named "transitions"

/-- The handler of a state. -/
def handlerField : Field := .named "handler"

/-- The cap on the inputs of a state. -/
def maxTurnsField : Field := ⟨"maxTurns", "max_turns"⟩

/-- Where a state leads once its cap is used up. -/
def maxTurnsTargetField : Field := ⟨"maxTurnsTarget", "max_turns_target"⟩

/-- The label of a running workflow. -/
def labelField : Field := ⟨"indicatorLabel", "indicator_label"⟩

/-- The hint of a running workflow. -/
def hintField : Field := ⟨"indicatorHint", "indicator_hint"⟩

/-- The class of a running workflow's bubbles. -/
def bubbleClassField : Field := ⟨"bubbleClass", "bubble_class"⟩

-- =========================================================== reading

/-- What is wrong with a value that is no whole number. -/
def causeOf : Whole.Refused → Issue.Cause
  | .unreadable => .unreadableWhole
  | .fractional => .fractional
  | .notFinite => .notFinite
  | .oversized => .oversized

/-- A whole number that was found in other data, or not. -/
def found : Except Whole.Refused Int → Checked Int
  | .ok n => .accepted n
  | .error e => .issue (causeOf e)

/-- A whole number. Truth values count as one and zero. -/
def whole : Value → Checked Int
  | .int n => .accepted n
  | .bool b => .accepted (if b then 1 else 0)
  | .float x => found (Whole.ofBinary64 x)
  | .string s => Checked.encoded (fun text => found (Whole.ofText text)) s
  | _ => .issue .notWhole

/-- A cap: a whole number that is not negative. -/
def cap (v : Value) : Checked Int :=
  (whole v).andThen fun n => if n < 0 then .issue .belowZero else .accepted n

/-- A target in its compact text. -/
def target (v : Value) : Checked Target := Target.parse <$> Checked.text v

/-- A state. -/
def state (v : Value) : Checked State :=
  (Checked.members stateTitle v).andThen fun ms =>
    (fun id onEnter transitions handler maxTurns maxTurnsTarget =>
        { id, onEnter, transitions, handler, maxTurns,
          maxTurnsTarget := maxTurnsTarget.getD .exit : State })
      <$> idField.required Checked.text ms
      <*> onEnterField.required Checked.text ms
      <*> transitionsField.optional .empty (Checked.catalog target) ms
      <*> handlerField.optional none (Checked.nullable Checked.text) ms
      <*> maxTurnsField.optional none (Checked.nullable cap) ms
      <*> maxTurnsTargetField.optional none (Checked.nullable target) ms

/-- Hints for presentation. -/
def presentation (v : Value) : Checked Presentation :=
  (Checked.members presentationTitle v).andThen fun ms =>
    Presentation.mk
      <$> labelField.required Checked.text ms
      <*> hintField.required Checked.text ms
      <*> bubbleClassField.required Checked.text ms

/-- A definition, but for the agreement between keys and ids. -/
def parts (v : Value) : Checked Definition :=
  (Checked.members workflowTitle v).andThen fun ms =>
    (fun id trigger initial exitPhrases exitMessage states presentation =>
        { id, trigger, initial, states, exitPhrases, exitMessage,
          presentation : Definition })
      <$> idField.required Checked.text ms
      <*> triggerField.required Checked.text ms
      <*> initialField.required Checked.text ms
      <*> exitPhrasesField.optional [] (Checked.list Checked.text) ms
      <*> exitMessageField.required Checked.text ms
      <*> statesField.required (Checked.catalog state) ms
      <*> presentationField.optional none (Checked.nullable presentation) ms

/-- The first state that stands under another key than its id. -/
def strayState? (d : Definition) : Option (String × State) :=
  d.states.entries.find? fun (key, s) => s.id != key

/-- A definition whose states stand under their ids. -/
def keyed (d : Definition) : Checked Definition :=
  match strayState? d with
  | none => .accepted d
  | some (key, s) =>
    .issue (.refused
      s!"State key {Text.quoted key} does not match its id {Text.quoted s.id}")

/-- The definition that a record describes. -/
def read (v : Value) : Except Refusal Definition :=
  ((parts v).andThen keyed).toExcept workflowTitle

-- =========================================================== writing

/-- A member that is left out if there is nothing to write. -/
def member? (f : Field) (v : Option Value) : List (String × Value) :=
  v.toList.map fun v => (f.wire, v)

/-- The record form of a state. -/
def ofState (s : State) : Value :=
  .map ([(idField.wire, .string s.id), (onEnterField.wire, .string s.onEnter),
      (transitionsField.wire,
        .map (s.transitions.map fun _ t => Value.string t.wire).entries)]
    ++ member? handlerField (s.handler.map .string)
    ++ member? maxTurnsField (s.maxTurns.map .int)
    ++ member? maxTurnsTargetField
      (if s.maxTurnsTarget = .exit then none
        else some (.string s.maxTurnsTarget.wire)))

/-- The record form of hints for presentation. -/
def ofPresentation (p : Presentation) : Value :=
  .map [(labelField.wire, .string p.label), (hintField.wire, .string p.hint),
    (bubbleClassField.wire, .string p.bubbleClass)]

/-- The record form of a definition, sound or not. -/
def ofDefinition (d : Definition) : Value :=
  .map ([(idField.wire, .string d.id), (triggerField.wire, .string d.trigger),
      (initialField.wire, .string d.initial),
      (exitPhrasesField.wire, .list (d.exitPhrases.map .string)),
      (exitMessageField.wire, .string d.exitMessage),
      (statesField.wire, .map (d.states.map fun _ s => ofState s).entries)]
    ++ member? presentationField (d.presentation.map ofPresentation))

/-- The record of a definition that has one. -/
def write (d : Definition) : Except Refusal Value :=
  if d.states.values.any fun s => s.maxTurns.any (· < 0) then
    .error {
      title := stateTitle
      issues := [{ place := [maxTurnsField.plain], cause := .belowZero }] }
  else do
    let sound ← (keyed d).toExcept workflowTitle
    return ofDefinition sound

end Record
end Colloquy
