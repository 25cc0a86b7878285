/-
A demonstration: utterances go through a session whose classifier knows a few
keywords. A listener writes down every action, and what the engine leaves alone
is written down too.
-/
import Colloquy.CommandLine

namespace Colloquy
namespace Demonstration

/-- The usage of the demonstration. -/
def usage : Usage where
  program := "basic_usage.py"
  purpose := some "Run utterances through the transcribe workflow."
  switches := [Usage.helpSwitch]
  operands := .several "utterances" "User utterances, in order"

/-- The utterances that arguments give. -/
def readUtterances (arguments : List String) :
    Except Usage.Stop (List String) := do
  let (found, left) ← usage.read arguments
  if left.isEmpty then return Usage.operandsOf found
  else usage.misuse (.unrecognized left)

-- ========================================================== classifying

/-- The intents that keywords tell, in the order in which they are tried. -/
def keywords : List (String × List String) := [
  ("transcribe", ["transcribe", "dictate"]),
  ("confirm", ["yes", "go ahead", "sure"]),
  ("deny", ["no", "cancel"])]

/-- The classification of a text: the first intent with a keyword that occurs
in it, case aside. -/
def classify (text : String) : Classification :=
  let text := Text.lower text.toList
  match keywords.find? fun (_, words) =>
    words.any fun word => Text.occursIn word.toList text with
  | some (intent, _) => { intent, score := .ofRatio false 1 1 }
  | none => { intent := Session.unknownIntent }

-- ============================================================= running

/-- What the listener writes about an action. -/
def actionLine (action : Action) : String :=
  "[" ++ action.kind.word ++ "] " ++ action.messageText

/-- What is written about a turn that came to nothing. -/
def ignoredLine (turn : Session.Turn) : String :=
  "(not consumed, intent=" ++ turn.intent ++ "): " ++ turn.text

/-- An input is dealt with, and its action is written down. -/
def handle (e : Program.PlainEngine) (text intent : String) :
    Program (Program.PlainEngine × Outcome) := do
  let (e, outcome) ← Program.handle e text intent
  (outcome.action.map actionLine).toList.forM Program.print
  return (e, outcome)

/-- A text goes through the session. A blank one makes no turn. -/
def process (e : Program.PlainEngine) (text : String) :
    Program (Program.PlainEngine × Option Session.Turn) := do
  match Session.route e text with
  | .blank => return (e, none)
  | .content text => do
    let (e, outcome) ← handle e text Session.unknownIntent
    return (e, some (.ofContent text outcome))
  | .classify text => do
    let c := classify text
    let (e, outcome) ← handle e text c.intent
    (Session.outcomeEntries c outcome).forM Program.note
    return (e, some (.ofClassified text c outcome))

/-- Utterances go through the session one after another. -/
def processAll (e : Program.PlainEngine) : List String → Program Unit
  | [] => return ()
  | text :: rest => do
    let (e, turn) ← process e text
    ((turn.filter fun turn => !turn.outcome.consumed).map
      ignoredLine).toList.forM Program.print
    processAll e rest

/-- The demonstration with its arguments; the result is the exit code. Settings
that are refused and definitions that cannot be loaded are not dealt with. -/
def run (arguments : List String) : Program Nat := do
  match readUtterances arguments with
  | .error stop => CommandLine.stopped stop
  | .ok utterances => do
    match ← Program.settings [] with
    | .error refusal => throw (.refused refusal)
    | .ok s => do
      Program.configureLog s
      match ← Program.start s with
      | .error fault => throw (.load fault)
      | .ok registry => do
        processAll (Program.engineOf registry) utterances
        return 0

end Demonstration
end Colloquy
