/-
Who hears of which kind of action: for every kind a row of listeners, each at
most once, the oldest subscription first. Subscribing again changes nothing,
and who leaves and comes back stands last.
-/
import Colloquy.Action
import Colloquy.Log

namespace Colloquy

/-- The listeners of each kind of action, by name. -/
structure Emitter where
  listeners : Action.Kind → List String := fun _ => []

namespace Emitter

instance : Inhabited Emitter := ⟨{}⟩

/-- The emitter with the listeners of one kind replaced. -/
def update (m : Emitter) (kind : Action.Kind) (names : List String) :
    Emitter where
  listeners k := if k = kind then names else m.listeners k

/-- The listener subscribes to a kind. -/
def subscribe (m : Emitter) (kind : Action.Kind) (name : String) : Emitter :=
  if name ∈ m.listeners kind then m
  else m.update kind (m.listeners kind ++ [name])

/-- The listener leaves a kind. -/
def unsubscribe (m : Emitter) (kind : Action.Kind) (name : String) : Emitter :=
  m.update kind ((m.listeners kind).filter (· ≠ name))

/-- The number of listeners of a kind. -/
def count (m : Emitter) (kind : Action.Kind) : Nat := (m.listeners kind).length

/-- The entry for a listener that failed on an action. -/
def failureEntry (action : Action) (failure : String) : Log.Entry :=
  { level := .error, source := .events, message := "Workflow listener failed"
    fields := [("action_type", .string action.kind.word),
      ("workflow_id", (action.workflow.map .string).getD .null)]
    failure := some failure }

end Emitter
end Colloquy
