/-
The workflows that come with the library: one takes down speech until it is
told to stop, the other takes notes. They are the working example of every rule
of the engine: a question that is asked again, a cap on how often, transitions
out with a message of their own, and states that take whatever they hear.
-/
import Colloquy.Definition

namespace Colloquy.Builtins

/-- Asks whether to take down speech, three times at most. -/
def confirmState : State where
  id := "confirm"
  onEnter := "Do you want to transcribe audio?"
  transitions := .ofList [
    ("confirm", .parse "recording"),
    ("deny", .parse "exit:Cancelled. No transcription started."),
    ("*", .parse <|
      "confirm:Sorry, I didn't understand. "
        ++ "Do you want to transcribe? Say yes or no.")]
  maxTurns := some 3
  maxTurnsTarget :=
    .parse "exit:Sorry, I couldn't understand. Cancelling transcription."

/-- Takes down speech. -/
def recordingState : State where
  id := "recording"
  onEnter := "Recording. Say \"stop transcribe\" when you are finished."
  handler := some "accumulate"

/-- The workflow that takes down speech. -/
def transcribe : Definition where
  id := "transcribe"
  trigger := "transcribe"
  initial := "confirm"
  states := .ofList [("confirm", confirmState), ("recording", recordingState)]
  exitPhrases := ["stop transcribe", "stop transcription", "end transcription"]
  exitMessage := "Transcript locked. \x7b\x7bwordCount\x7d\x7d words captured."
  presentation := some {
    label := "TRANSCRIBING"
    hint := "say \"stop transcribe\" to finish"
    bubbleClass := "transcribe" }

/-- Takes one note after another. -/
def collectingState : State where
  id := "collecting"
  onEnter := "Go ahead, one note at a time."
  handler := some "bullets"

/-- The workflow that takes notes. -/
def notes : Definition where
  id := "notes"
  trigger := "take_notes"
  initial := "collecting"
  states := .ofList [("collecting", collectingState)]
  exitPhrases := ["done with notes", "stop notes"]
  exitMessage :=
    "Saved \x7b\x7bturnCount\x7d\x7d notes:\n\x7b\x7bbuffer\x7d\x7d"
  presentation := some {
    label := "NOTES"
    hint := "say \"done with notes\" to finish"
    bubbleClass := "notes" }

/-- The packaged workflows, in the order in which they are loaded. -/
def all : List Definition := [transcribe, notes]

end Colloquy.Builtins
