/-
The command line: two commands for those who write definitions. One loads files
and reports the problems in them; the other feeds a transcript of classified
inputs to an engine and writes down what comes of each.
-/
import Colloquy.Configuration
import Colloquy.Problem
import Colloquy.Session
import Colloquy.Usage.Layout

namespace Colloquy
namespace CommandLine

-- ============================================================= usage

/-- The word for reporting problems. -/
def validateWord : String := "validate"

/-- The word for feeding a transcript to an engine. -/
def replayWord : String := "replay"

/-- The words for the commands. -/
def words : List String := [validateWord, replayWord]

/-- The name of the program. -/
def program : String := "turnflow"

/-- The usage of the command line as a whole. -/
def usage : Usage where
  program := program
  purpose := some "Declarative multi-turn conversational workflow engine"
  version := program ++ " 0.1.0"
  switches := [
    Usage.helpSwitch,
    { names := ["--version"], mark := .version,
      purpose := "show program's version number and exit" }]
  operands := .command "command" [
    (validateWord, "Load definition files and report authoring problems"),
    (replayWord, "Feed a transcript of classified inputs through the engine")]

/-- The usage of the command that reports problems. -/
def validateUsage : Usage where
  program := program ++ " " ++ validateWord
  switches := [
    Usage.helpSwitch,
    { names := ["--strict"], mark := .strict
      purpose := "Exit non-zero when any definition has diagnostics" }]
  operands := .several "files" "Newline-delimited JSON files"

/-- The usage of the command that feeds a transcript to an engine. -/
def replayUsage : Usage where
  program := program ++ " " ++ replayWord
  switches := [
    Usage.helpSwitch,
    { names := ["--definitions"], value := some "DEFINITIONS",
      mark := .definitions
      purpose := "Extra definitions file to load (repeatable)" },
    { names := ["--no-builtins"], mark := .withoutBuiltins
      purpose :=
        "Do not load the workflow definitions shipped with the package" }]
  operands := .one "script" <|
    "Newline-delimited JSON transcript of "
      ++ "\x7b\"text\": ..., \"intent\": ...\x7d objects"

-- ========================================================== commands

/-- A command with what it needs. A file of definitions may be asked for
without a path. -/
inductive Command
  | validate (files : List Path) (strict : Bool)
  | replay (script : Path) (definitions : List (Option Path)) (builtins : Bool)
deriving DecidableEq, Repr

/-- The word for a command. -/
def Command.word : Command → String
  | .validate .. => validateWord
  | .replay .. => replayWord

/-- The files that a command reads. -/
def Command.paths : Command → List Path
  | .validate files _ => files
  | .replay script definitions _ => script :: definitions.filterMap id

/-- The command for reporting problems, and what is left over of its
arguments. -/
def readValidate (arguments : List String) :
    Except Usage.Stop (Command × List String) := do
  let (found, left) ← validateUsage.read arguments
  return (.validate ((Usage.operandsOf found).map .ofText)
    (Usage.isGiven .strict found), left)

/-- The command for feeding a transcript to an engine, and what is left over of
its arguments. -/
def readReplay (arguments : List String) :
    Except Usage.Stop (Command × List String) := do
  let (found, left) ← replayUsage.read arguments
  let script := (Usage.operandsOf found).headD ""
  let definitions :=
    (Usage.valuesOf .definitions found).map (Option.map Path.ofText)
  return (.replay (.ofText script) definitions
    !(Usage.isGiven .withoutBuiltins found), left)

/-- The command that arguments ask for. What is left over of a command's own
arguments is told by the command line as a whole. -/
def Command.read (arguments : List String) : Except Usage.Stop Command := do
  let (found, left) ← usage.read arguments
  let (word, rest) := match Usage.operandsOf found with
    | [] => ("", [])
    | word :: rest => (word, rest)
  let (command, more) ←
    if word = validateWord then readValidate rest
    else if word = replayWord then readReplay rest
    else usage.misuse (.notChoice usage.operands.name word words)
  if (left ++ more).isEmpty then return command
  else usage.misuse (.unrecognized (left ++ more))

-- ========================================================= validating

/-- The registry with files loaded into it one after another, up to the first
that cannot be loaded. A file without a path is a fault of its own. -/
def loadAll (r : Registry) :
    List (Option Path) → Program (Registry × Option (Path × LoadFault))
  | [] => return (r, none)
  | none :: _ => throw .noPath
  | some path :: rest => do
    match r.loadFile (← get).disk path with
    | .error fault => return (r, some (path, fault))
    | .ok loaded => do
      loaded.entries.forM Program.note
      loadAll loaded.registry rest

/-- What is reported of a definition. -/
def report (d : Definition) : List String :=
  if d.problems.isEmpty then [d.id ++ ": ok"]
  else d.problems.map fun problem => d.id ++ ": " ++ problem.message

/-- Whether a fault lies in what was to be loaded; others are not dealt
with. -/
def isLoadError : LoadFault → Bool
  | .unread (.unopened ..) => true
  | .unread _ => false
  | .batch (.tooManyDigits _) => false
  | .batch _ => true

/-- The problems in files are reported. -/
def validate (files : List Path) (strict : Bool) : Program Nat := do
  let (registry, fault) ← loadAll {} (files.map some)
  match fault with
  | some (path, fault) =>
    if isLoadError fault then
      Program.complain (path.text ++ ": " ++ fault.message)
      return 1
    else throw (.load fault)
  | none =>
    let definitions := registry.definitions.values
    (definitions.flatMap report).forM Program.print
    let spoilt := definitions.any fun d => !d.problems.isEmpty
    return if strict && spoilt then 2 else 0

-- ========================================================== replaying

/-- Why a transcript cannot be fed to an engine. -/
inductive ReplayFault
  | load (fault : LoadFault)
  | unread (fault : Disk.TextFault)
  | unreadable (line : List Char) (fault : Json.ReadError)
  | notInput (path : Path) (line : Nat)

/-- The wording of a fault. -/
def ReplayFault.message : ReplayFault → String
  | .load fault => fault.message
  | .unread fault => fault.message
  | .unreadable line fault => fault.message line
  | .notInput path line =>
    path.text ++ s!" line {line}: expected an object with a 'text' string"

/-- An input of a transcript: a text with its intent. -/
structure Input where
  text : String
  intent : String
deriving DecidableEq, Repr

/-- The text that a value is, if it is one. -/
def textOf? : Value → Option String
  | .string s => some s
  | _ => none

/-- The input that a value describes. An intent may be any value and counts as
its text. -/
def Input.ofValue? (v : Value) : Option Input := do
  let text ← textOf? (← v.member? "text")
  let intent :=
    ((v.member? "intent").map Value.text).getD Session.unknownIntent
  return { text, intent }

/-- The inputs on the lines from number `number` on. -/
def readInputs (path : Path) (number : Nat) :
    List (List Char) → Except ReplayFault (List Input)
  | [] => .ok []
  | line :: rest =>
    if Text.isAllBlank line then readInputs path (number + 1) rest
    else match Json.read line with
      | .error fault => .error (.unreadable line fault)
      | .ok v =>
        match Input.ofValue? v with
        | none => .error (.notInput path number)
        | some input => do
          let more ← readInputs path (number + 1) rest
          return input :: more

/-- The inputs of a transcript. -/
def readScript (disk : Disk) (path : Path) : Except ReplayFault (List Input) :=
  match disk.readText path with
  | .error fault => .error (.unread fault)
  | .ok text => readInputs path 1 (Text.lines text)

/-- The engine and the inputs of a replay, or why there are none. -/
def prepare (s : Settings) (script : Path) (definitions : List (Option Path)) :
    Program (Except ReplayFault (Program.PlainEngine × List Input)) := do
  match ← Program.start s with
  | .error fault => return .error (.load fault)
  | .ok registry => do
    match ← loadAll registry definitions with
    | (_, some (_, fault)) => return .error (.load fault)
    | (registry, none) => do
      return (readScript (← get).disk script).map fun inputs =>
        (Program.engineOf registry, inputs)

/-- What is written about an input. -/
def resultLine (input : Input) (outcome : Outcome) : String :=
  Json.write (.map (
    [("text", .string input.text), ("intent", .string input.intent)]
      ++ outcome.members))

/-- Inputs are dealt with one after another, and what comes of each is
written. -/
def replayInputs (e : Program.PlainEngine) : List Input → Program Unit
  | [] => return ()
  | input :: rest => do
    let (e, outcome) ← Program.handle e input.text input.intent
    Program.print (resultLine input outcome)
    replayInputs e rest

/-- A transcript is fed to an engine. -/
def replay (s : Settings) (script : Path) (definitions : List (Option Path)) :
    Program Nat := do
  match ← prepare s script definitions with
  | .error fault => do
    Program.complain fault.message
    return 1
  | .ok (e, inputs) => do
    replayInputs e inputs
    return 0

-- ============================================================ running

/-- A command is carried out. -/
def Command.run (s : Settings) : Command → Program Nat
  | .validate files strict => CommandLine.validate files strict
  | .replay script definitions builtins =>
    CommandLine.replay
      (if builtins then s else { s with loadsBuiltins := false }) script
      definitions

/-- The entry for a command about to be carried out. -/
def runningEntry (command : Command) : Log.Entry :=
  { level := .debug, source := .commandLine, message := "Running command"
    fields := [("command", .string command.word)] }

/-- A program that has ended before it started. What it says is laid out for
the console. -/
def stopped (stop : Usage.Stop) : Program Nat := do
  let room := Usage.roomOf (← get).environment.columns
  match stop with
  | .help usage => do
    (usage.helpLines room).forM Program.print
    return 0
  | .version usage => do
    (Text.fill room usage.version).forM Program.print
    return 0
  | .misused usage fault => do
    (usage.complaintLines room fault).forM Program.complain
    return 2

/-- The command line with its arguments; the result is the exit code. -/
def run (arguments : List String) : Program Nat := do
  match Command.read arguments with
  | .error stop => stopped stop
  | .ok command => do
    match ← Program.settings [] with
    | .error refusal => do
      Program.complain refusal.message
      return 1
    | .ok s => do
      Program.configureLog s
      Program.note (runningEntry command)
      command.run s

end CommandLine
end Colloquy
