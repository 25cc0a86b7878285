/-
Workflow definitions: the states of a workflow, the transitions between them,
and the phrases that end it wherever it stands.
-/
import Colloquy.Catalog
import Colloquy.Target
import Colloquy.Text.Blank
import Colloquy.Text.Casing

namespace Colloquy

-- ============================================================ states

/-- A state of a workflow. An input is decided by its transitions first and by
its handler second; a state may stay active for `maxTurns` inputs, none or zero
meaning without end, and the next one leads to `maxTurnsTarget`. -/
structure State where
  id : String
  onEnter : String
  transitions : Catalog Target := .empty
  handler : Option String := none
  maxTurns : Option Int := none
  maxTurnsTarget : Target := .exit
deriving DecidableEq, Inhabited

namespace State

/-- The intent that stands for every intent without a transition of its own. -/
def wildcard : String := "*"

/-- Where an intent leads. -/
def targetFor (s : State) (intent : String) : Option Target :=
  (s.transitions.get? intent).or (s.transitions.get? wildcard)

/-- The number of inputs after which the state is left, if there is one. -/
def turnCap (s : State) : Option Int := s.maxTurns.filter (· ≠ 0)

/-- Whether the state is left after some number of inputs. -/
def hasTurnCap (s : State) : Bool := s.turnCap.isSome

/-- The name of the handler; an empty name names none. -/
def handlerName? (s : State) : Option String := s.handler.filter (· ≠ "")

/-- Whether every input is content for the handler. -/
def isCapture (s : State) : Bool :=
  s.handlerName?.isSome && s.transitions.isEmpty

end State

-- ======================================================= definitions

/-- How a host may present a running workflow. -/
structure Presentation where
  label : String
  hint : String
  bubbleClass : String
deriving DecidableEq, Inhabited

/-- A workflow. Each state stands under a key, which is how targets name it. -/
structure Definition where
  id : String
  trigger : String
  initial : String
  states : Catalog State
  exitPhrases : List String := []
  exitMessage : String := ""
  presentation : Option Presentation := none
deriving DecidableEq, Inhabited

namespace Definition

/-- The state under a key. -/
def state? (d : Definition) (key : Option String) : Option State :=
  key.bind d.states.get?

/-- Whether one of the exit phrases occurs in the text, whatever the case. -/
def matchesExitPhrase (d : Definition) (text : String) : Bool :=
  let heard := Text.points (Text.trimBy Text.isBlank (Text.lower text.toList))
  d.exitPhrases.any fun phrase =>
    Text.occursIn (Text.points (Text.lower phrase.toList)) heard

/-- The definition with a state put under its id. -/
def withState (d : Definition) (s : State) : Definition :=
  { d with states := d.states.put s.id s }

end Definition
end Colloquy
