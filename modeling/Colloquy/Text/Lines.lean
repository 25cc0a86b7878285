/-
Lines of a text. Ten characters end a line, and a carriage return together with
the line feed after it ends one line, not two. The last line needs no end, so a
text that closes with a line end has no empty line after it.

A file read as text knows only one line end: reading turns every carriage
return, with the line feed after it if there is one, into a line feed.
-/
import Colloquy.Text.Points

namespace Colloquy.Text

/-- The characters that end a line. -/
def lineEnds : Ranges :=
  [(0x0a, 0x0d), (0x1c, 0x1e), (0x85, 0x85), (0x2028, 0x2029)]

/-- Whether `c` ends a line. -/
def isLineEnd (c : Char) : Bool := lineEnds.covers c

/-- The lines of a text without their ends; `line` holds, in reverse, what has
been read of the current line. -/
def linesFrom (line : List Char) : List Char → List (List Char)
  | [] => if line.isEmpty then [] else [line.reverse]
  | '\r' :: '\n' :: rest => line.reverse :: linesFrom [] rest
  | c :: rest =>
    if isLineEnd c then line.reverse :: linesFrom [] rest
    else linesFrom (c :: line) rest

/-- The lines of a text without their ends. -/
def lines (text : List Char) : List (List Char) := linesFrom [] text

/-- Every line end of a file, be it a carriage return, a line feed or both, as
a line feed. -/
def unifyLineEnds : List Char → List Char
  | [] => []
  | '\r' :: '\n' :: rest => '\n' :: unifyLineEnds rest
  | c :: rest => (if c = '\r' then '\n' else c) :: unifyLineEnds rest

end Colloquy.Text
