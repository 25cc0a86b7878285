/-
Problems that the author of a definition should know of. None of them stops the
engine: a target without a state ends the workflow, and a variable that refers
to nothing leaves a gap in the message.

The problems come in a fixed order: the initial state, then state by state what
is wrong with its id and its targets, then the variables of all templates.
-/
import Colloquy.Definition
import Colloquy.Template

namespace Colloquy

/-- A part of a definition that holds a template or a target. -/
inductive Problem.Site
  | exitMessage
  | onEnter (key : String)
  | transition (key intent : String)
  | maxTurnsTarget (key : String)
deriving DecidableEq, Repr

/-- How a problem names its site. -/
def Problem.Site.text : Problem.Site → String
  | .exitMessage => "exitMessage"
  | .onEnter key => key ++ ".onEnter"
  | .transition key intent =>
    key ++ ".transitions[" ++ Text.quoted intent ++ "]"
  | .maxTurnsTarget key => key ++ ".maxTurnsTarget"

/-- Something that the author of a definition should know of. -/
inductive Problem
  | undefinedInitial (state : String)
  | strayId (key id : String)
  | undefinedTarget (site : Problem.Site) (state : Option String)
  | unknownVariable (site : Problem.Site) (path : String)
deriving DecidableEq, Repr

namespace Problem

/-- The wording of a problem. -/
def message : Problem → String
  | .undefinedInitial state =>
    "initial state " ++ Text.quoted state ++ " is not defined"
  | .strayId key id =>
    "state " ++ Text.quoted key ++ " declares id " ++ Text.quoted id
  | .undefinedTarget site state =>
    site.text ++ " points at undefined state "
      ++ (state.map Text.quoted).getD "None"
  | .unknownVariable site path =>
    site.text ++ " uses unknown template variable " ++ Text.quoted path

end Problem

namespace Definition

/-- The targets that a state may lead to, with their sites; the target of a cap
counts only where there is a cap. -/
def targetsOf (key : String) (s : State) : List (Problem.Site × Target) :=
  s.transitions.entries.map (fun (intent, t) => (.transition key intent, t))
    ++ (if s.hasTurnCap then [(.maxTurnsTarget key, s.maxTurnsTarget)] else [])

/-- The templates that a state may show, with their sites. -/
def templatesOf (key : String) (s : State) : List (Problem.Site × String) :=
  (.onEnter key, s.onEnter)
    :: (targetsOf key s).filterMap fun (site, t) =>
      t.message.map fun m => (site, m)

/-- The templates of a definition, with their sites. -/
def templates (d : Definition) : List (Problem.Site × String) :=
  (.exitMessage, d.exitMessage) :: d.states.entries.flatMap fun (key, s) =>
    templatesOf key s

/-- Whether a target leads to a state that is not there. -/
def isDangling (d : Definition) (t : Target) : Bool :=
  !t.isExit && (d.state? t.state).isNone

/-- The problems of one state that concern its id and its targets. -/
def stateProblems (d : Definition) (key : String) (s : State) : List Problem :=
  (if s.id = key then [] else [.strayId key s.id])
    ++ (targetsOf key s).filterMap fun (site, t) =>
      if d.isDangling t then some (.undefinedTarget site t.state) else none

/-- The problems of a definition. -/
def problems (d : Definition) : List Problem :=
  (if (d.state? (some d.initial)).isSome then []
    else [.undefinedInitial d.initial])
    ++ d.states.entries.flatMap (fun (key, s) => d.stateProblems key s)
    ++ d.templates.flatMap fun (site, template) =>
      ((Template.variablePaths template).filter fun path =>
        !Template.isKnown path).map (.unknownVariable site)

end Definition
end Colloquy
