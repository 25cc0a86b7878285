/-
JSON text of a value, on one line: a comma and a space between items, a colon
and a space after a name, members in order. Characters beyond ASCII stand as
themselves; the quote, the backslash and the control characters below U+0020
are escaped, so the text never holds a control character of that range.

Numbers without a finite value have the words `NaN`, `Infinity` and
`-Infinity`, which stand outside the standard. A path is written as its text.
-/
import Colloquy.Value

namespace Colloquy.Json

/-- One character inside a string. -/
def escapeChar (c : Char) : List Char :=
  if c = '\x22' ∨ c = '\\' then ['\\', c]
  else if c = '\n' then ['\\', 'n']
  else if c = '\r' then ['\\', 'r']
  else if c = '\t' then ['\\', 't']
  else if c = '\x08' then ['\\', 'b']
  else if c = '\x0c' then ['\\', 'f']
  else if c.toNat < 0x20 then '\\' :: 'u' :: Text.hexDigits 4 c.toNat
  else [c]

/-- A string between quotes. -/
def string (s : String) : String :=
  .ofList ('\x22' :: s.toList.flatMap escapeChar ++ ['\x22'])

/-- A floating-point number. -/
def number : Binary64 → String
  | .nan => "NaN"
  | .infinite negative => if negative then "-Infinity" else "Infinity"
  | x => x.text

mutual

/-- The JSON text of a value. -/
def write : Value → String
  | .null => "null"
  | .bool b => if b then "true" else "false"
  | .int n => toString n
  | .float x => number x
  | .string s => string s
  | .path p => string p.text
  | .list items => "[" ++ String.intercalate ", " (writeItems items) ++ "]"
  | .map members =>
    "\x7b" ++ String.intercalate ", " (writeMembers members) ++ "\x7d"

/-- The texts of the items of an array. -/
def writeItems : List Value → List String
  | [] => []
  | item :: rest => write item :: writeItems rest

/-- The texts of the members of an object. -/
def writeMembers : List (String × Value) → List String
  | [] => []
  | (name, value) :: rest =>
    (string name ++ ": " ++ write value) :: writeMembers rest

end

/-- A JSON text as it leaves: a half of a surrogate pair, which can stand in
strings alone, is escaped. -/
def encoded (text : String) : String :=
  .ofList ((Text.points text.toList).flatMap fun n =>
    if Text.isHalf n then '\\' :: 'u' :: Text.hexDigits 4 n else [.ofNat n])

end Colloquy.Json
