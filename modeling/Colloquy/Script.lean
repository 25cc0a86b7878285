/-
Scripts: an engine together with those who act on it. Listeners hear of actions
and may answer with operations of their own; handlers may be programs that do
the same. Operations are data, so everything that can happen is a run.

Listeners are told of an action in the order of their subscriptions when it was
sent. One that fails is noted down, and the next one is told. Whoever answers
with operations has a budget for it: a listener reacts, and a program operates,
only so many times. The budgets bound how deep operations can nest, and the run
of an operation is a recursion on that depth.

A handler holds on to the context it was given. What it writes reaches that
context and no other, also after the workflow has ended, where others who hold
on to it still see what is written. A program may put any value into the
buffer, and have any value remembered; while a stray is there, a message that
needs a text where there is none cannot be made.
-/
import Colloquy.Batch
import Colloquy.Builtins
import Colloquy.Emitter
import Colloquy.Problem
import Colloquy.Script.Draft
import Colloquy.Session

namespace Colloquy
namespace Script

-- ============================================================ faults

/-- Why an operation failed. -/
inductive Fault
  | engine (fault : Engine.Fault)
  | raised (message : String)
  | sum (fault : SumFault)
  | notText
  | uncountable
  | unknownHandler (name : String)
  | unknownListener (name : String)
  | unknownDefinition
  | noRegistry
  | unknownWord (word : UnknownWord)
  | load (fault : LoadFault)
  | unreadable (text : List Char) (fault : Json.ReadError)
  | refused (refusal : Refusal)

-- ======================================================== operations

/-- A question about the engine; it changes nothing. -/
inductive Query
  | handlers (names : List String)
  | shouldTrigger (intent : String)
  | findByTrigger (intent : String)
  | registry (ids : List String)
  | record (id : String)
  | problems (id : String)
  | subscribers (event : String)

mutual

/-- Something to be done with the engine. -/
inductive Operation
  | handle (text intent : String)
  | process (text : String)
  | announce (message : String)
  | reset
  | loadBatch (text : String)
  | loadFile (path : String)
  | loadBuiltins
  | loadApart (text : String)
  | swapRegistry (text : String)
  | register (record : String)
  | registerDefinition (definition : Definition)
  | registerState (id : String) (state : Except UnknownWord State)
  | registerHandler (name : String) (program : Program)
  | subscribe (event listener : String)
  | unsubscribe (event listener : String)
  | emit (action : Action)
  | ask (query : Query)
  | refuse (word : UnknownWord)

/-- One instruction of a program: a change of the context, or an operation. -/
inductive Instruction
  | touch (edit : String → Draft → Except Fault Draft)
  | operate (operation : Operation)

/-- A handler as a program, which may operate so many times. -/
inductive Program
  | mk (instructions : List Instruction) (limit : Nat)

end

instance : Inhabited Operation := ⟨.reset⟩

instance : Inhabited Instruction := ⟨.operate default⟩

instance : Inhabited Program := ⟨.mk [] 0⟩

/-- The instructions of a program. -/
def Program.instructions : Program → List Instruction
  | .mk instructions _ => instructions

/-- How many operations are left to a program. -/
def Program.limit : Program → Nat
  | .mk _ limit => limit

/-- The program with one operation less. -/
def Program.spend : Program → Program
  | .mk instructions limit => .mk instructions (limit - 1)

/-- One thing that a listener does when it reacts. An operation that fails
leaves the listener as it is, unless the listener insists on it: then the
listener fails too, and `wording` says how that reads. -/
inductive Reaction
  | operate (operation : Operation)
  | insist (operation : Operation) (wording : Fault → String)
  | fail (message : String)

/-- A listener: what it does when it reacts, and how many times it will. One
that is quiet hears nothing. -/
structure Listener where
  quiet : Bool := false
  reactions : List Reaction := []
  limit : Nat := 1

/-- What an operation comes to. Where an activation has ended, its stray is
shown, if there was one in its buffer. -/
inductive Reply
  | nothing
  | outcome (outcome : Outcome) (stray : Option Stray)
  | turn (turn : Session.Turn) (stray : Option Stray) (calls : List String)
  | action (action : Action)
  | names (names : List String)
  | text (text : Option String)
  | truth (truth : Bool)
  | number (number : Nat)
  | handlers (names : List String) (known : List Bool)
  | registry (ids : List String) (known : List Bool)
  | states (old new : List String)
  | record (record : Option (Except Refusal Value))
  | problems (problems : Option (List Problem))

/-- What can be seen of a run: a listener hears of an action, with what was
active then, and an operation within another comes to an end. -/
inductive Event
  | heard (listener : String) (action : Action) (stray : Option Stray)
    (workflow state : Option String)
  | nested (reply : Except Fault Reply)

-- ============================================================= stage

/-- A handler in the table: one that gathers texts, or the program in a
slot. -/
inductive Hook
  | plain (handler : Handler)
  | program (slot : Nat)

/-- A registry that was made outside the engine: there is none, or the engine
uses it, or it stands apart. -/
inductive Handle
  | none
  | shared
  | apart (registry : Registry)

/-- The registry that a new engine has, and how it stands to the one that was
made outside, if there is one. That one counts only if it has a definition; an
empty one is left aside, and the engine makes its own. -/
def Handle.adopt : Option Registry → Registry × Handle
  | Option.none => ({}, Handle.none)
  | some r => if r.ids.isEmpty then ({}, .apart r) else (r, .shared)

/-- An operation that was run: the engine as it was when the operation started,
what the operation came to, and what ran within it, in order. -/
inductive Call
  | mk (operation : Operation) (found : Engine Hook)
    (result : Except Fault Reply) (inner : List Call)

/-- What was run. -/
def Call.operation : Call → Operation
  | .mk operation _ _ _ => operation

/-- The engine as it was when the operation started. -/
def Call.found : Call → Engine Hook
  | .mk _ found _ _ => found

/-- What the operation came to. -/
def Call.result : Call → Except Fault Reply
  | .mk _ _ result _ => result

/-- What ran within the operation. -/
def Call.inner : Call → List Call
  | .mk _ _ _ inner => inner

/-- An engine and everything around it. Programs stand in the order in which
they were registered, each with the budget that is left to it. Strays stand
under the numbers of the activations in whose buffers they are, and so do the
contexts of activations that have ended. The journal holds what was run so
far. -/
structure Stage where
  engine : Engine Hook
  handle : Handle := .none
  emitter : Emitter := {}
  listeners : Catalog Listener := .empty
  programs : List Program := []
  strays : List (Nat × Stray) := []
  rows : Rows := []
  ended : List (Nat × Context) := []
  classifier : Classifier := .ofList []
  calls : List String := []
  disk : Disk
  entries : List Log.Entry := []
  events : List Event := []
  journal : List Call := []

/-- The stray in the buffer of the running workflow. -/
def Stage.stray? (s : Stage) : Option Stray :=
  s.engine.active.bind fun a => s.strays.lookup a.serial

/-- The number of words in the buffer of the running workflow. -/
def Stage.wordCount (s : Stage) : Except Fault Nat :=
  if s.stray?.all Stray.isText then .ok s.engine.context.wordCount
  else .error .uncountable

/-- The context of an activation, whether it is still running or has ended. -/
def Stage.contextOf (s : Stage) (serial : Nat) : Context :=
  match s.engine.active.filter fun a => a.serial = serial with
  | some a => a.context
  | none => (s.ended.lookup serial).getD {}

/-- The draft of an activation's context. -/
def Stage.draft (s : Stage) (serial : Nat) : Draft :=
  .ofContext s.rows (s.contextOf serial) (s.strays.lookup serial)

/-- The stage as it is kept when the running workflow is about to end: its
context stays for who still holds on to it. -/
def Stage.remember (s : Stage) : Stage :=
  { s with
    ended :=
      (s.engine.active.map fun a => (a.serial, a.context)).toList ++ s.ended }

/-- The stage with a draft in place of the context of an activation. -/
def Stage.write (s : Stage) (serial : Nat) (d : Draft) : Stage :=
  let (rows, stray) := d.settle s.rows
  { s with
    engine := s.engine.writeContext serial d.context
    ended :=
      s.ended.map fun entry =>
        if entry.1 = serial then (serial, d.context) else entry
    rows
    strays :=
      (stray.map fun stray => (serial, stray)).toList
        ++ s.strays.filter fun entry => entry.1 ≠ serial }

/-- What is done on a stage; what happened before a failure stays. -/
abbrev Run := ExceptT Fault (StateM Stage)

/-- Entries are noted down. -/
def note (entries : List Log.Entry) : Run Unit :=
  modify fun s => { s with entries := s.entries ++ entries }

/-- Something can be seen. -/
def see (event : Event) : Run Unit :=
  modify fun s => { s with events := s.events ++ [event] }

/-- The engine is replaced. -/
def setEngine (engine : Engine Hook) : Run Unit :=
  modify fun s => { s with engine }

/-- The context of an activation is edited; if that fails, it stays as it
is. -/
def edit (serial : Nat) (change : Draft → Except Fault Draft) : Run Unit := do
  let s ← get
  match change (s.draft serial) with
  | .ok draft => modify fun s => s.write serial draft
  | .error fault => throw fault

/-- The fault of an obstacle. -/
def Obstacle.fault : Obstacle → Fault
  | .unreadable => .notText
  | .uncountable => .uncountable
  | .untold => .raised Value.textRefusal

/-- A template must be such that it can be rendered for the running
workflow. -/
def demand (template : Option String) : Run Unit := do
  let s ← get
  match s.stray?, template with
  | some stray, some template =>
    match obstacle? stray s.engine.context template with
    | some obstacle => throw obstacle.fault
    | none => pure ()
  | _, _ => pure ()

/-- A run whose failure is its result. -/
def attempt {α : Type} (run : Run α) : Run (Except Fault α) := fun s =>
  let (result, s) := run s
  (.ok result, s)

-- ========================================================= listeners

/-- What a listener does about an action, up to a failure. `inner` runs an
operation within this one. -/
def runReactions (inner : Operation → Run Reply) (action : Action) :
    List Reaction → Run Unit
  | [] => pure ()
  | .fail message :: _ =>
    note [Emitter.failureEntry action ("RuntimeError: " ++ message)]
  | .operate operation :: rest => do
    see (.nested (← attempt (inner operation)))
    runReactions inner action rest
  | .insist operation wording :: rest => do
    let result ← attempt (inner operation)
    see (.nested result)
    match result with
    | .ok _ => runReactions inner action rest
    | .error fault => note [Emitter.failureEntry action (wording fault)]

/-- A listener hears of an action. -/
def hear (inner : Operation → Run Reply) (action : Action)
    (stray : Option Stray) (name : String) :
    Run Unit := do
  let s ← get
  match s.listeners.get? name with
  | none => pure ()
  | some l =>
    if l.quiet then pure ()
    else
      see (.heard name action stray s.engine.workflow? s.engine.stateKey?)
      if l.limit = 0 then pure ()
      else
        modify fun s =>
          { s with
            listeners := s.listeners.put name { l with limit := l.limit - 1 } }
        runReactions inner action l.reactions

/-- The listeners of its kind, as they are now, hear of an action one after
another. -/
def dispatch (inner : Operation → Run Reply) (action : Action)
    (stray : Option Stray := none) :
    Run Unit := do
  ((← get).emitter.listeners action.kind).forM (hear inner action stray)

-- ========================================================== handlers

/-- Whether the program in a slot may operate; if so, it has one operation
less. -/
def spend (slot : Nat) : Run Bool := do
  let s ← get
  match s.programs[slot]? with
  | some p =>
    if p.limit = 0 then return false
    else
      set { s with programs := s.programs.set slot p.spend }
      return true
  | none => return false

/-- The instructions of the program in a slot, for an activation. -/
def runInstructions (inner : Operation → Run Reply) (text : String)
    (serial slot : Nat) :
    List Instruction → Run Unit
  | [] => pure ()
  | .touch change :: rest => do
    edit serial (change text)
    runInstructions inner text serial slot rest
  | .operate operation :: rest => do
    if ← spend slot then see (.nested (← attempt (inner operation)))
    runInstructions inner text serial slot rest

/-- A handler takes a text for an activation. -/
def runHook (inner : Operation → Run Reply) (text : String) (a : Activation) :
    Hook → Run Unit
  | .plain handler =>
    edit a.serial fun d => (d.gather handler text).mapError .sum
  | .program slot => do
    match (← get).programs[slot]? with
    | some p => runInstructions inner text a.serial slot p.instructions
    | none => pure ()

-- ============================================================ inputs

/-- An activation that is about to end is remembered: what comes back is the
stray in its buffer. -/
def rememberEnding : Engine.Course Hook → Run (Option Stray)
  | .leave .. => do
    let s ← get
    modify Stage.remember
    return s.stray?
  | _ => return none

/-- A plan is carried out, if its message can be made: how far the input came,
and the stray of an activation that has ended. -/
def carryOut (p : Engine.Plan Hook) :
    Run (Engine.Step Hook × Option Stray) := do
  setEngine p.engine
  note p.entries
  demand p.course.template?
  let stray ← rememberEnding p.course
  let t := ({ p with entries := [] } : Engine.Plan Hook).carryOut
  setEngine t.engine
  note t.entries
  return (t.step, stray)

/-- An input is dealt with, and the listeners hear of what came of it. With the
outcome comes the stray of an activation that has ended. -/
def handle (inner : Operation → Run Reply) (text intent : String) :
    Run (Outcome × Option Stray) := do
  let (step, stray) ← carryOut ((← get).engine.plan text intent)
  match step with
  | .settled outcome => do
    outcome.action.toList.forM fun action => dispatch inner action stray
    return (outcome, stray)
  | .failed fault => throw (.engine fault)
  | .capture hook a s => do
    runHook inner text a hook
    match (← get).engine.captured s with
    | .error fault => throw (.engine fault)
    | .ok action => do
      dispatch inner action
      return (.done action, none)

/-- A text is classified. -/
def classify (text : String) : Run Classification := do
  modify fun s => { s with calls := s.calls ++ [text] }
  return (← get).classifier.classify text

/-- A text is given to the engine as a session would. -/
def process (inner : Operation → Run Reply) (text : String) : Run Reply := do
  modify fun s => { s with calls := [] }
  match Session.route (← get).engine text with
  | .blank => return .nothing
  | .content text => do
    let (outcome, stray) ← handle inner text Session.unknownIntent
    return .turn (.ofContent text outcome) stray (← get).calls
  | .classify text => do
    let c ← classify text
    let (outcome, stray) ← handle inner text c.intent
    note (Session.outcomeEntries c outcome)
    return .turn (.ofClassified text c outcome) stray (← get).calls

-- =========================================================== registry

/-- The engine's registry after a batch was loaded, or the fault. -/
def takeLoaded (result : Except LoadFault Registry.Loaded) : Run Reply := do
  match result with
  | .error fault => throw (.load fault)
  | .ok loaded => do
    let e := (← get).engine
    setEngine { e with registry := loaded.registry }
    note loaded.entries
    return .names loaded.ids

/-- A batch is loaded into the engine's registry. -/
def loadBatch (text : String) : Run Reply := do
  takeLoaded (((← get).engine.registry.loadBatch text.toList).mapError .batch)

/-- A batch is loaded into the registry that was made outside the engine. -/
def loadApart (text : String) : Run Reply := do
  match (← get).handle with
  | .none => throw .noRegistry
  | .shared => loadBatch text
  | .apart r =>
    match r.loadBatch text.toList with
    | .error fault => throw (.load (.batch fault))
    | .ok loaded => do
      modify fun s => { s with handle := .apart loaded.registry }
      note loaded.entries
      return .names loaded.ids

/-- The engine gets a new registry, with a batch loaded into it. The old one
stays with whoever made it. -/
def swapRegistry (text : String) : Run Reply := do
  modify fun s =>
    { s with
      engine := { s.engine with registry := {} }
      handle := match s.handle with
        | .shared => .apart s.engine.registry
        | handle => handle }
  loadBatch text

/-- A definition is registered. -/
def register (d : Definition) : Run Unit := do
  let e := (← get).engine
  note [e.registry.registrationEntry d]
  setEngine { e with registry := e.registry.register d }

/-- A definition is registered in the registry that was made outside the
engine. -/
def registerApart (d : Definition) : Run Unit := do
  match (← get).handle with
  | .none => throw .noRegistry
  | .shared => register d
  | .apart r => do
    note [r.registrationEntry d]
    modify fun s => { s with handle := .apart (r.register d) }

/-- The definition that a record text describes. -/
def readRecord (text : List Char) : Run Definition :=
  match Json.read text with
  | .error fault => throw (.unreadable text fault)
  | .ok v =>
    match Record.read v with
    | .error refusal => throw (.refused refusal)
    | .ok d => pure d

/-- A state is put into the definition with an id, and the copy is registered.
That there is such a definition matters first. -/
def registerState (id : String) (state : Except UnknownWord State) :
    Run Reply := do
  match (← get).engine.registry.get? id, state with
  | none, _ => throw .unknownDefinition
  | some _, .error word => throw (.unknownWord word)
  | some d, .ok s => do
    register (d.withState s)
    return .states d.states.names (d.withState s).states.names

/-- A program becomes the handler under a name. -/
def registerHandler (name : String) (program : Program) : Run Unit := do
  let s ← get
  note (s.engine.handlerEntries name)
  modify fun s =>
    { s with
      programs := s.programs ++ [program]
      engine := s.engine.registerHandler name (.program s.programs.length) }

-- ========================================================= operations

/-- The emitter changes for a listener that is there and a kind that there
is. -/
def changeEmitter (change : Emitter → Action.Kind → String → Emitter)
    (event listener : String) :
    Run Unit := do
  let s ← get
  if s.listeners.contains listener then
    match Action.Kind.vocabulary.read event with
    | .ok kind => set { s with emitter := change s.emitter kind listener }
    | .error word => throw (.unknownWord word)
  else throw (.unknownListener listener)

/-- The answer to a question. -/
def answer (s : Stage) : Query → Except Fault Reply
  | .handlers names =>
    .ok (.handlers s.engine.handlerNames
      (names.map s.engine.handlers.contains))
  | .shouldTrigger intent =>
    .ok (.truth (s.engine.registry.shouldTrigger intent))
  | .findByTrigger intent =>
    .ok (.text ((s.engine.registry.findByTrigger intent).map (·.id)))
  | .registry ids =>
    .ok (.registry s.engine.registry.ids
      (ids.map fun id => (s.engine.registry.get? id).isSome))
  | .record id => .ok (.record ((s.engine.registry.get? id).map Record.write))
  | .problems id =>
    .ok (.problems ((s.engine.registry.get? id).map (·.problems)))
  | .subscribers event =>
    match Action.Kind.vocabulary.read event with
    | .ok kind => .ok (.number (s.emitter.count kind))
    | .error word => .error (.unknownWord word)

/-- One operation, where `inner` runs the operations within it. -/
def perform (inner : Operation → Run Reply) : Operation → Run Reply
  | .handle text intent => do
    let (outcome, stray) ← handle inner text intent
    return .outcome outcome stray
  | .process text => process inner text
  | .announce message => do
    demand (some message)
    let action := (← get).engine.announce message
    dispatch inner action
    return .action action
  | .reset => do
    let e := (← get).engine
    note e.resetEntries
    modify Stage.remember
    setEngine e.reset
    return .nothing
  | .loadBatch text => loadBatch text
  | .loadFile path => do
    let s ← get
    takeLoaded (s.engine.registry.loadFile s.disk (.ofText path))
  | .loadBuiltins => do
    takeLoaded (.ok ((← get).engine.registry.take Builtins.all))
  | .loadApart text => loadApart text
  | .swapRegistry text => swapRegistry text
  | .register record => do
    register (← readRecord record.toList)
    return .nothing
  | .registerDefinition d => do
    register d
    return .nothing
  | .registerState id s => registerState id s
  | .registerHandler name program => do
    registerHandler name program
    return .nothing
  | .subscribe event listener => do
    changeEmitter Emitter.subscribe event listener
    return .nothing
  | .unsubscribe event listener => do
    changeEmitter Emitter.unsubscribe event listener
    return .nothing
  | .emit action => do
    dispatch inner action
    return .nothing
  | .ask query => do liftExcept (answer (← get) query)
  | .refuse word => throw (.unknownWord word)

/-- An operation is run, and the journal says so. -/
def journalled (run : Operation → Run Reply) (operation : Operation) :
    Run Reply := fun s =>
  let (result, after) := run operation { s with journal := [] }
  (result, { after with journal := s.journal
    ++ [.mk operation s.engine result after.journal] })

/-- An operation within which others nest at most `depth` deep; what lies
deeper does nothing. -/
def runWithin : Nat → Operation → Run Reply
  | 0 => journalled (perform fun _ => pure .nothing)
  | depth + 1 => journalled (perform (runWithin depth))

-- ============================================================= budgets

mutual

/-- How often what an operation registers can operate. -/
def Operation.weight : Operation → Nat
  | .registerHandler _ program => program.weight
  | _ => 0

/-- How often what an instruction registers can operate. -/
def Instruction.weight : Instruction → Nat
  | .touch _ => 0
  | .operate operation => operation.weight

/-- How often a program can operate, together with what it registers. -/
def Program.weight : Program → Nat
  | .mk instructions limit => limit * (1 + weights instructions)

/-- How often what instructions register can operate. -/
def weights : List Instruction → Nat
  | [] => 0
  | instruction :: rest => instruction.weight + weights rest

end

/-- How often what a reaction registers can operate. -/
def Reaction.weight : Reaction → Nat
  | .operate operation | .insist operation _ => operation.weight
  | .fail _ => 0

/-- The sum of numbers. -/
def total (ns : List Nat) : Nat := ns.foldr (· + ·) 0

/-- How often a listener can react, together with what it registers. -/
def Listener.weight (l : Listener) : Nat :=
  l.limit * (1 + total (l.reactions.map Reaction.weight))

/-- A bound on the number of operations that can still happen within others. -/
def Stage.budget (s : Stage) : Nat :=
  total (s.listeners.values.map Listener.weight)
    + total (s.programs.map Program.weight)

/-- An operation. Every operation within another is paid for, so the budgets
bound the depth. -/
def run (operation : Operation) : Run Reply := fun s =>
  runWithin (s.budget + operation.weight) operation s

/-- Operations one after another, each run by `step`, with what each comes
to. -/
def runAllBy (step : Operation → Run Reply) :
    List Operation → Stage → List (Except Fault Reply) × Stage
  | [], s => ([], s)
  | operation :: rest, s =>
    let (result, s) := step operation s
    let (results, s) := runAllBy step rest s
    (result :: results, s)

/-- Operations one after another, with what each comes to. -/
def runAll : List Operation → Stage → List (Except Fault Reply) × Stage :=
  runAllBy run

end Script
end Colloquy
