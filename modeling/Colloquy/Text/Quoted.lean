/-
Quoted text: a text between quotes, on one line, with every character that does
not print written as an escape. The quotes are single ones, unless the text
holds a single quote and no double quote; the quote in use and the backslash
are escaped by a backslash.
-/
import Colloquy.Text.Printable
import Colloquy.Text.Points

namespace Colloquy.Text

/-- The quote to put around a text: the double quote only where it saves
escaping single ones. -/
def quoteFor (text : List Char) : Char :=
  if text.contains '\x27' && !text.contains '\x22' then '\x22' else '\x27'

/-- The `n` lowest digits of `value` in base sixteen, in lower case. -/
def hexDigits : Nat → Nat → List Char
  | 0, _ => []
  | n + 1, value => hexDigits n (value / 16) ++ [Nat.digitChar (value % 16)]

/-- A code point as an escape of the shortest of the three widths. -/
def escapeCode (n : Nat) : List Char :=
  if n < 0x100 then '\\' :: 'x' :: hexDigits 2 n
  else if n < 0x10000 then '\\' :: 'u' :: hexDigits 4 n
  else '\\' :: 'U' :: hexDigits 8 n

/-- One character inside the quotes `quote`. -/
def quoteChar (quote c : Char) : List Char :=
  if c = quote ∨ c = '\\' then ['\\', c]
  else if c = '\t' then ['\\', 't']
  else if c = '\n' then ['\\', 'n']
  else if c = '\r' then ['\\', 'r']
  else if isPrintable c then [c]
  else escapeCode c.toNat

/-- One code point inside the quotes `quote`. -/
def quotePoint (quote : Char) (n : Nat) : List Char :=
  if isHalf n then escapeCode n else quoteChar quote (.ofNat n)

/-- The quoted form of a text. -/
def quoted (text : String) : String :=
  let quote := quoteFor text.toList
  .ofList (quote :: (points text.toList).flatMap (quotePoint quote) ++ [quote])

end Colloquy.Text
