/-
The layout of what a program says about its command line, for a console of any
width. The usage stands on one line if there is room for it. Else the switches
fill lines of their own and the operands the lines after those, all behind the
name of the program; or below it, if that takes most of a line. Help goes on
with what the program is for and with a table of its operands and its switches:
on the left the label of a row, on the right what it is for, which starts on
the line below if the label is too long.
-/
import Colloquy.Text.Fill
import Colloquy.Usage

namespace Colloquy
namespace Usage

/-- A margin of blanks. -/
def margin (size : Nat) : String := .ofList (List.replicate size ' ')

/-- The characters that fit on a line of a console: its last two columns stay
free. -/
def roomOf (columns : Nat) : Nat := columns - 2

-- ============================================================= labels

/-- What stands for a choice of words. -/
def choice (words : List String) : String :=
  "\x7b" ++ String.intercalate "," words ++ "\x7d"

/-- What stands for the operands, part by part. -/
def Operands.parts : Operands → List String
  | .one name _ => [name]
  | .several name _ => [name, "[" ++ name ++ " ...]"]
  | .command _ purposes => [choice (purposes.map (·.1)), "..."]

/-- A name of a switch, with what stands for its value. -/
def Switch.spelled (s : Switch) (name : String) : String :=
  name ++ (s.value.map (" " ++ ·)).getD ""

/-- What stands for a switch. -/
def Switch.part (s : Switch) : String :=
  "[" ++ s.spelled (s.names.headD "") ++ "]"

/-- The label of a switch. -/
def Switch.label (s : Switch) : String :=
  String.intercalate ", " (s.names.map s.spelled)

-- ============================================================== usage

/-- Parts in lines, as many on each as there is room for. Lines start at column
`start`; the current one holds `line` so far, and its next part would start at
`column`. -/
def packFrom (room start : Nat) (line : List String) (column : Nat) :
    List String → List String
  | [] => if line.isEmpty then [] else [String.intercalate " " line]
  | part :: rest =>
    if room < column + part.length && !line.isEmpty then
      String.intercalate " " line
        :: packFrom room start [part] (start + part.length + 1) rest
    else packFrom room start (line ++ [part]) (column + part.length + 1) rest

/-- Parts in lines that start at column `start`. -/
def pack (room start : Nat) (parts : List String) : List String :=
  packFrom room start [] start parts

/-- What stands in front of a usage. -/
def usageLead : String := "usage: "

/-- The usage in lines of `room` characters at most, if its parts are not
longer than that. -/
def usageLines (u : Usage) (room : Nat) : List String :=
  let switches := u.switches.map Switch.part
  let operands := u.operands.parts
  let name := usageLead ++ u.program
  let whole := String.intercalate " " (name :: switches ++ operands)
  let below (start : Nat) (lines : List String) :=
    lines.map (margin start ++ ·)
  if whole.length ≤ room then [whole]
  else if 4 * name.length ≤ 3 * room then
    let start := name.length + 1
    match packFrom room start [name] start switches
      ++ pack room start operands with
    | [] => []
    | first :: more => first :: below start more
  else
    let start := usageLead.length
    name :: below start (match pack room start (switches ++ operands) with
      | [line] => [line]
      | _ => pack room start switches ++ pack room start operands)

-- =============================================================== help

/-- A row of help: how far it is moved in, its label, and what that is for. -/
structure Row where
  inset : Nat := 2
  label : String
  purpose : Option String
deriving DecidableEq, Repr

/-- The rows of the operands. Commands have a row each, below the one for their
choice. -/
def Operands.rows : Operands → List Row
  | .one name purpose | .several name purpose =>
    [{ label := name, purpose := some purpose }]
  | .command _ purposes =>
    { label := choice (purposes.map (·.1)), purpose := none }
      :: purposes.map fun (word, purpose) =>
        { inset := 4, label := word, purpose := some purpose }

/-- The row of a switch. -/
def Switch.row (s : Switch) : Row :=
  { label := s.label, purpose := some s.purpose }

/-- The column at which the right side of a table starts: behind the longest
label, but within the first 24 columns, and further to the left on a narrow
console. -/
def sideOf (rows : List Row) (room : Nat) : Nat :=
  let longest := (rows.map (·.label.length)).foldl max 0
  min (longest + 4) (min 24 (max (room - 20) 4))

/-- The lines of a row, the right side of the table starting at column
`side`. -/
def Row.lines (room side : Nat) (row : Row) : List String :=
  let label := margin row.inset ++ row.label
  let about := (row.purpose.map (Text.fill (room - side))).getD []
  let alone := label :: about.map (margin side ++ ·)
  if label.length + 2 ≤ side then
    match about with
    | [] => alone
    | first :: more =>
      (label ++ margin (side - label.length) ++ first)
        :: more.map (margin side ++ ·)
  else alone

/-- The help of a program. -/
def helpLines (u : Usage) (room : Nat) : List String :=
  let operands := u.operands.rows
  let switches := u.switches.map Switch.row
  let side := sideOf (operands ++ switches) room
  let purpose :=
    (u.purpose.map fun purpose => "" :: Text.fill room purpose).getD []
  u.usageLines room ++ purpose
    ++ ["", "positional arguments:"] ++ operands.flatMap (Row.lines room side)
    ++ ["", "options:"] ++ switches.flatMap (Row.lines room side)

/-- What is told to a user whose arguments are wrong. -/
def complaintLines (u : Usage) (room : Nat) (fault : Arguments.Fault) :
    List String :=
  u.usageLines room ++ [u.program ++ ": error: " ++ fault.message]

end Usage
end Colloquy
