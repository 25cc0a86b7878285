/-
Text in lines of limited width. A text is cut into pieces, at its blanks and
behind its hyphens, and each line takes as many pieces as it has room for. A
blank at which a line ends is dropped. A piece that no line has room for is
broken: what is left of the line takes the front of it.
-/
import Colloquy.Text.Casing

namespace Colloquy.Text

-- ============================================================ pieces

/-- Whether a hyphen may end a line: there are two letters on either side of
it. What stands before it is given in reverse. -/
def mayEnd : List Char → List Char → Bool
  | b :: a :: _, c :: d :: _ => [a, b, c, d].all Char.isAlpha
  | _, _ => false

/-- The pieces of a text; `piece` holds, in reverse, what has been read of the
current one. -/
def piecesFrom (piece : List Char) : List Char → List (List Char)
  | [] => [piece.reverse]
  | c :: rest =>
    if c = ' ' then piece.reverse :: [c] :: piecesFrom [] rest
    else if c = '-' && mayEnd piece rest then
      (c :: piece).reverse :: piecesFrom [] rest
    else piecesFrom (c :: piece) rest

/-- The pieces of a text, none of them empty: its blanks, and the words between
them, which also end at hyphens. -/
def pieces (text : List Char) : List (List Char) :=
  (piecesFrom [] text).filter (!·.isEmpty)

-- ============================================================= lines

/-- The room that every line has at least. -/
def leastRoom : Nat := 11

/-- A line with a piece behind it, both lines in reverse. None starts with a
blank. -/
def extended (line piece : List Char) : List Char :=
  if line.isEmpty && piece = [' '] then [] else piece.reverse ++ line

/-- A line given in reverse, without a blank at its end. -/
def closed : List Char → List Char
  | ' ' :: line => line.reverse
  | line => line.reverse

/-- The lines that pieces fill, on each of which there is room for `spare`
characters beyond the least; `line` holds, in reverse, what the current one has
so far. -/
def fillFrom (spare : Nat) (line : List Char) :
    List (List Char) → List (List Char)
  | [] => if line.isEmpty then [] else [closed line]
  | piece :: rest =>
    let left := leastRoom + spare - line.length
    if piece.length ≤ left then fillFrom spare (extended line piece) rest
    else if piece.length ≤ leastRoom + spare then
      closed line :: fillFrom spare [] (piece :: rest)
    else
      (line.reverse ++ piece.take left)
        :: fillFrom spare [] (piece.drop left :: rest)
termination_by pieces => (pieces.flatten.length + pieces.length, line.length)
decreasing_by
  all_goals simp_wf
  · left; omega
  · right; omega
  · simp only [leastRoom] at *
    omega

/-- A text in lines of `room` characters at most, or the least room if that is
more. -/
def fill (room : Nat) (text : String) : List String :=
  (fillFrom (room - leastRoom) [] (pieces text.toList)).map .ofList

end Colloquy.Text
