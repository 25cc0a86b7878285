/-
Actions: what the engine tells its host and its listeners about. An input has
an outcome, which says whether the engine took the input and what came of it.
-/
import Colloquy.Context
import Colloquy.Vocabulary

namespace Colloquy

/-- The kinds of action, which listeners subscribe to. -/
inductive Action.Kind
  | enterState
  | inputCaptured
  | exitWorkflow
  | message
deriving DecidableEq, Repr

/-- The word for a kind of action. -/
def Action.Kind.word : Action.Kind → String
  | .enterState => "enter-state"
  | .inputCaptured => "input-captured"
  | .exitWorkflow => "exit-workflow"
  | .message => "message"

/-- Every kind of action. -/
def Action.Kind.all : List Action.Kind :=
  [.enterState, .inputCaptured, .exitWorkflow, .message]

/-- The words for the kinds of action. -/
def Action.Kind.vocabulary : Vocabulary Action.Kind :=
  ⟨"ActionType", all.map fun kind => (kind.word, kind)⟩

/-- Something that happened. A workflow entered a state, perhaps the one it was
in; a handler took an input; a workflow ended, with its memory at that moment;
or the host had something announced, with or without a workflow running. -/
inductive Action
  | enterState (workflow state message : String)
  | inputCaptured (workflow state : String)
  | exitWorkflow (workflow message : String) (context : Context)
  | message (workflow : Option String) (message : String)
deriving Inhabited

namespace Action

/-- The kind of an action. -/
def kind : Action → Kind
  | .enterState .. => .enterState
  | .inputCaptured .. => .inputCaptured
  | .exitWorkflow .. => .exitWorkflow
  | .message .. => .message

/-- The workflow that the action belongs to. -/
def workflow : Action → Option String
  | .enterState w _ _ | .inputCaptured w _ | .exitWorkflow w _ _ => some w
  | .message w _ => w

/-- The message of an action; a captured input has none. -/
def messageText : Action → String
  | .enterState _ _ m | .exitWorkflow _ m _ | .message _ m => m
  | .inputCaptured .. => ""

/-- The action as a value, its members named as answers name them. -/
def toValue (action : Action) : Value :=
  .map (("type", .string action.kind.word) :: match action with
    | .enterState w s m =>
      [("workflowId", .string w), ("stateId", .string s),
        ("message", .string m)]
    | .inputCaptured w s => [("workflowId", .string w), ("stateId", .string s)]
    | .exitWorkflow w m ctx =>
      [("workflowId", .string w), ("message", .string m),
        ("context", ctx.toValue)]
    | .message w m =>
      [("workflowId", (w.map .string).getD .null), ("message", .string m)])

end Action

/-- What came of an input. An input that was not consumed is for the host to
route elsewhere. -/
structure Outcome where
  consumed : Bool
  action : Option Action := none
deriving Inhabited

namespace Outcome

/-- The engine left the input alone. -/
def ignored : Outcome := { consumed := false }

/-- The engine took the input, and this came of it. -/
def done (action : Action) : Outcome :=
  { consumed := true, action := some action }

/-- The members of an outcome, named as answers name them. -/
def members (outcome : Outcome) : List (String × Value) :=
  [("consumed", .bool outcome.consumed),
    ("action", (outcome.action.map Action.toValue).getD .null)]

end Outcome
end Colloquy
