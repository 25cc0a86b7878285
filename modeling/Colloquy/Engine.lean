/-
The engine: a registry, a table of handlers, and at most one running workflow.

An input takes one way through the engine. With nothing running, it may
activate the workflow that its intent triggers. Otherwise an exit phrase ends
the workflow; then the input is counted; a state whose cap is used up leads to
the target of its cap; the intent may have a transition; and what is left goes
to the state's handler, if it has one that is known.

A fault in a definition does not stop the engine. A target without a state and
a state that has gone end the workflow, and a handler that is not known takes
nothing; the log says so.

What an input leads to is found first, as a plan; carrying it out makes the
message and ends or moves the workflow.

The handlers are a parameter. `advance` goes as far as it can without running
one, and says which handler it would run; so the same engine serves handlers
that keep to their context, which are functions, and handlers that call the
engine again, which are not.
-/
import Colloquy.Action
import Colloquy.Handler
import Colloquy.Registry
import Colloquy.Template

namespace Colloquy

universe u

-- ============================================================= state

/-- A running workflow. Every activation has a number of its own. The state is
none only between the activation and the first state. -/
structure Activation where
  serial : Nat
  workflow : String
  state : Option String := none
  context : Context := {}
deriving Inhabited

/-- An engine whose handlers are of type `H`. -/
structure Engine (H : Type u) where
  registry : Registry := {}
  handlers : Catalog H := .empty
  active : Option Activation := none
  activations : Nat := 0
deriving Inhabited

/-- What no definition from a record can bring about. -/
inductive Engine.Fault
  | targetWithoutState
  | idleAfterHandler
deriving DecidableEq, Repr

/-- The wording of a fault. -/
def Engine.Fault.message : Engine.Fault → String
  | .targetWithoutState => "a target leads to a state but names none"
  | .idleAfterHandler => "a handler left the engine idle"

/-- Where an input leads: nowhere; against a rule; to a handler, which must
run; out of the workflow, or into a state. The last two are spoken of by a
message, made from a template. A handler runs for an activation, at a state
that the engine found active. -/
inductive Engine.Course (H : Type u)
  | ignored
  | failed (fault : Engine.Fault)
  | capture (handler : H) (activation : Activation) (state : State)
  | leave (activation : Activation) (template : String)
  | arrive (activation : Activation) (workflow key template : String)

/-- The template of the message that a course is spoken of by. -/
def Engine.Course.template? {H : Type u} : Engine.Course H → Option String
  | .leave _ template | .arrive _ _ _ template => some template
  | .ignored | .failed _ | .capture .. => none

/-- An input on its way: the engine as it left it, what was noted down, and
where it leads. -/
structure Engine.Plan (H : Type u) where
  engine : Engine H
  entries : List Log.Entry := []
  course : Engine.Course H

/-- The same plan, with an entry in front. -/
def Engine.Plan.after {H : Type u} (entry : Log.Entry) (p : Engine.Plan H) :
    Engine.Plan H :=
  { p with entries := entry :: p.entries }

/-- How far an input came: it was dealt with, it broke a rule, or a handler
must run. -/
inductive Engine.Step (H : Type u)
  | settled (outcome : Outcome)
  | failed (fault : Engine.Fault)
  | capture (handler : H) (activation : Activation) (state : State)

/-- An input after its way: the engine as it left it, what was noted down, and
how far it came. -/
structure Engine.Turn (H : Type u) where
  engine : Engine H
  entries : List Log.Entry := []
  step : Engine.Step H

-- =============================================================== states

/-- How a state deals with an input. -/
inductive State.Decision
  | capped (cap : Int) (target : Target)
  | transition (target : Target)
  | content
deriving DecidableEq

/-- How a state deals with its `turn`-th input since it was entered. -/
def State.decide (s : State) (turn : Int) (intent : String) : State.Decision :=
  match s.turnCap.filter (turn > ·) with
  | some cap => .capped cap s.maxTurnsTarget
  | none =>
    match s.targetFor intent with
    | some target => .transition target
    | none => .content

namespace Engine

variable {H : Type u}

-- ============================================================ queries

/-- Whether a workflow is running. -/
def isActive (e : Engine H) : Bool := e.active.isSome

/-- The id of the running workflow. -/
def workflow? (e : Engine H) : Option String := e.active.map (·.workflow)

/-- The key of the active state. -/
def stateKey? (e : Engine H) : Option String := e.active.bind (·.state)

/-- The memory of the running workflow; an idle engine remembers nothing. -/
def context (e : Engine H) : Context := (e.active.map (·.context)).getD {}

/-- The definition of an activation, as the registry has it now. -/
def definition? (e : Engine H) (a : Activation) : Option Definition :=
  e.registry.get? a.workflow

/-- The state of an activation, as the registry has it now. -/
def state? (e : Engine H) (a : Activation) : Option State :=
  (e.definition? a).bind fun d => d.state? a.state

/-- Whether the active state takes every input as content. -/
def isCapturing (e : Engine H) : Bool :=
  (e.active.bind e.state?).any State.isCapture

-- ============================================================ entries

/-- An entry of the engine. -/
def entry (level : Log.Level) (message : String)
    (fields : List (String × Value)) : Log.Entry :=
  { level, source := .engine, message, fields }

/-- A text or nothing, as the value of a field. -/
def optionalText (s : Option String) : Value := (s.map .string).getD .null

-- ======================================================= transitions

/-- The running workflow ends with a message of its own, or with the exit
message of its definition, if it still has one. -/
def exit (e : Engine H) (a : Activation) (message : Option String) : Plan H :=
  let template :=
    message.getD (((e.definition? a).map (·.exitMessage)).getD "")
  { engine := e, course := .leave a template }

/-- The running workflow enters a state, with a message of its own or the one
of the state. The turns in the state are counted anew unless the state is the
one that was active. -/
def enter (e : Engine H) (a : Activation) (key : String)
    (message : Option String) : Plan H :=
  match (e.definition? a).bind fun d =>
    (d.states.get? key).map fun s => (d, s) with
  | none =>
    (e.exit a none).after
      (entry .warning "Transition to undefined state; exiting"
        [("workflow_id", .string a.workflow), ("state_id", .string key)])
  | some (d, s) =>
    let context :=
      if a.state = some key then a.context
      else { a.context with stateTurnCount := 0 }
    let a := { a with state := some key, context }
    { engine := { e with active := some a },
      course := .arrive a d.id key (message.getD s.onEnter) }

/-- The running workflow goes where a target leads. -/
def follow (e : Engine H) (a : Activation) (t : Target) : Plan H :=
  if t.isExit then e.exit a t.message
  else match t.state with
    | some key => e.enter a key t.message
    | none => { engine := e, course := .failed .targetWithoutState }

/-- With nothing running, an intent may activate a workflow. -/
def activate (e : Engine H) (intent : String) : Plan H :=
  match e.registry.findByTrigger intent with
  | none => { engine := e, course := .ignored }
  | some d =>
    let a : Activation := { serial := e.activations, workflow := d.id }
    let e := { e with active := some a, activations := e.activations + 1 }
    (e.enter a d.initial none).after (entry .info "Workflow activated"
      [("workflow_id", .string d.id), ("intent", .string intent)])

/-- An input without a transition goes to the handler of the state. -/
def offer (e : Engine H) (a : Activation) (s : State) : Plan H :=
  match s.handlerName? with
  | none => { engine := e, course := .ignored }
  | some name =>
    match e.handlers.get? name with
    | some handler => { engine := e, course := .capture handler a s }
    | none =>
      { engine := e
        entries :=
          [entry .warning
            "State names an unregistered handler; input not consumed"
          [("state_id", .string s.id), ("handler", .string name)]]
        course := .ignored }

/-- An input at a state that is there: it is counted, and the state decides. -/
def consider (e : Engine H) (a : Activation) (s : State) (intent : String) :
    Plan H :=
  let a := { a with context := a.context.countTurn }
  let e := { e with active := some a }
  match s.decide a.context.stateTurnCount intent with
  | .capped cap target =>
    (e.follow a target).after (entry .debug "Turn cap exceeded"
      [("state_id", .string s.id), ("max_turns", .int cap)])
  | .transition target => e.follow a target
  | .content => e.offer a s

/-- Where an input leads. -/
def plan (e : Engine H) (text intent : String) : Plan H :=
  match e.active with
  | none => e.activate intent
  | some a =>
    if (e.definition? a).any (·.matchesExitPhrase text) then
      (e.exit a none).after
        (entry .debug "Exit phrase matched"
          [("workflow_id", .string a.workflow)])
    else match e.state? a with
      | none =>
        (e.exit a none).after
          (entry .warning "Active state vanished from its definition; exiting"
            [("workflow_id", .string a.workflow),
              ("state_id", optionalText a.state)])
      | some s => e.consider a s intent

/-- What comes of a plan. A workflow that is left makes the engine idle before
anyone hears of it. -/
def Plan.carryOut (p : Plan H) : Turn H :=
  match p.course with
  | .ignored =>
    { engine := p.engine, entries := p.entries, step := .settled .ignored }
  | .failed fault =>
    { engine := p.engine, entries := p.entries, step := .failed fault }
  | .capture handler a s =>
    { engine := p.engine, entries := p.entries, step := .capture handler a s }
  | .leave a template =>
    { engine := { p.engine with active := none }
      entries := p.entries ++ [entry .info "Workflow exited"
        [("workflow_id", .string a.workflow),
          ("turn_count", .int a.context.turnCount)]]
      step :=
        .settled (.done
          (.exitWorkflow a.workflow (Template.render template a.context)
            a.context)) }
  | .arrive a workflow key template =>
    { engine := p.engine
      entries := p.entries ++ [entry .debug "Entered state"
        [("workflow_id", .string workflow), ("state_id", .string key)]]
      step :=
        .settled (.done
          (.enterState workflow key (Template.render template a.context))) }

/-- An input on its way through the engine, up to a handler. -/
def advance (e : Engine H) (text intent : String) : Turn H :=
  (e.plan text intent).carryOut

-- ========================================================== handlers

/-- The engine with the context of an activation replaced, if that activation
is still the one that is running. -/
def writeContext (e : Engine H) (serial : Nat) (context : Context) :
    Engine H :=
  { e with
    active :=
      e.active.map fun a =>
        if a.serial = serial then { a with context } else a }

/-- The action of an input that the handler of state `s` took. It names the
workflow and the state that are active once the handler is done; an empty key
gives way to the id of `s`. -/
def captured (e : Engine H) (s : State) : Except Fault Action :=
  match e.active with
  | none => .error .idleAfterHandler
  | some a =>
    .ok (.inputCaptured a.workflow ((a.state.filter (· ≠ "")).getD s.id))

/-- Why an input was not dealt with: the engine broke a rule, or the handler
failed. -/
inductive Failure (ε : Type u)
  | engine (fault : Fault)
  | handler (fault : ε)

/-- What came of an input: the engine, what was noted down, and the outcome. -/
structure Result (H : Type u) (ε : Type u) where
  engine : Engine H
  entries : List Log.Entry
  outcome : Except (Failure ε) Outcome

/-- An input dealt with by an engine whose handlers keep to their contexts. -/
def handle {ε : Type u} (e : Engine (ContextHandler ε))
    (text intent : String) :
    Result (ContextHandler ε) ε :=
  let t := e.advance text intent
  match t.step with
  | .settled outcome => ⟨t.engine, t.entries, .ok outcome⟩
  | .failed fault => ⟨t.engine, t.entries, .error (.engine fault)⟩
  | .capture handler a s =>
    let (context, fault) := handler text a.context
    let e := t.engine.writeContext a.serial context
    match fault with
    | some fault => ⟨e, t.entries, .error (.handler fault)⟩
    | none => ⟨e, t.entries, (Outcome.done <$> e.captured s).mapError .engine⟩

-- ====================================================== other requests

/-- A message for the host, resolved against what is remembered. -/
def announce (e : Engine H) (message : String) : Action :=
  .message e.workflow? (Template.render message e.context)

/-- The running workflow is dropped, and nobody hears of it. -/
def reset (e : Engine H) : Engine H := { e with active := none }

/-- The entries for a workflow about to be dropped. -/
def resetEntries (e : Engine H) : List Log.Entry :=
  (e.workflow?.map fun w =>
    entry .info "Workflow reset" [("workflow_id", .string w)]).toList

/-- The engine with a handler put under a name. -/
def registerHandler (e : Engine H) (name : String) (handler : H) : Engine H :=
  { e with handlers := e.handlers.put name handler }

/-- The entries for a handler about to be put under a name. -/
def handlerEntries (e : Engine H) (name : String) : List Log.Entry :=
  if e.handlers.contains name then
    [{ level := .debug, source := .handlers
       message := "Overriding workflow handler"
       fields := [("handler", .string name)] }]
  else []

/-- The names of the handlers, sorted. -/
def handlerNames (e : Engine H) : List String :=
  e.handlers.names.mergeSort (· ≤ ·)

end Engine
end Colloquy
