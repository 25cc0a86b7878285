/-
Setting up the log: from which level on entries are written, and in which
format. The format is set even where the level is refused.
-/
import Colloquy.Log.Line
import Colloquy.Text.Casing

namespace Colloquy.Log

/-- The numbers of the names that a level may be given by. -/
def levelNumbers : List (String × Nat) := [
  ("CRITICAL", 50), ("FATAL", 50), ("ERROR", 40), ("WARN", 30),
  ("WARNING", 30), ("INFO", 20), ("DEBUG", 10), ("NOTSET", 0)]

/-- How the log is set up: entries below `level` are dropped. Before it is set
up for the first time there is no format. -/
structure Setup where
  level : Nat := 30
  format : Option Format := none
deriving DecidableEq, Repr

/-- A level that has no number. -/
structure UnknownLevel where
  name : String
deriving DecidableEq, Repr

/-- The wording of an unknown level. -/
def UnknownLevel.message (e : UnknownLevel) : String :=
  "Unknown level: " ++ Text.quoted e.name

/-- A text in upper case. -/
def upperName (text : String) : String := .ofList (Text.upper text.toList)

/-- The log set up anew, and whether the level was refused. Case does not
matter in a level. -/
def Setup.configure (s : Setup) (level format : String) :
    Setup × Except UnknownLevel Unit :=
  let s := { s with format := some (.ofWord format) }
  let name := upperName level
  match levelNumbers.lookup name with
  | some number => ({ s with level := number }, .ok ())
  | none => (s, .error ⟨name⟩)

/-- The line of an entry made at `created`, if it is written. An entry that has
no line in the format is left out. -/
def Setup.line? (s : Setup) (created : Binary64) (e : Entry) : Option String :=
  if e.level.number < s.level then none
  else
    s.format.bind fun format =>
      (format.line (e.toRecord (.real created))).toOption

end Colloquy.Log
