/-
Grids of characters. A standard for many characters sets them out in rows; the
encodings of such a standard say in which bytes a row and a place in it stand.
-/
import Colloquy.Text.Points

namespace Colloquy.Text.EastAsian

/-- A grid: pieces of rows, each with the number of its row, the place where it
starts in the row, and its characters. The replacement character leaves a place
empty. -/
abbrev Grid := List (Nat × Nat × String)

namespace Grid

/-- The code point at a place in a row. -/
def at? (g : Grid) (row place : Nat) : Option Nat :=
  g.findSome? fun (r, start, text) =>
    if r = row && start ≤ place then
      (text.toList[place - start]?).bind fun c =>
        if c = '\ufffd' then none else some c.toNat
    else none

/-- The code points in a grid. -/
def points (g : Grid) : List Nat :=
  g.flatMap fun (_, _, text) => text.toList.map Char.toNat

/-- The code points from `first` to `last` that are not in a grid, in order. -/
def others (g : Grid) (first last : Nat) : Array Nat :=
  let size := last + 1 - first
  let listed := g.points.foldl
    (fun listed n =>
      if first ≤ n then listed.setIfInBounds (n - first) true else listed)
    (Array.replicate size false)
  ((List.range size).filter fun i => !(listed.getD i false)).toArray.map
    (first + ·)

end Grid

/-- The code points at a place in a row, of places that stand for several. -/
def pairAt? (places : List (Nat × Nat × List Nat)) (row place : Nat) :
    Option (List Nat) :=
  (places.find? fun (r, p, _) => r = row && p = place).map
    fun (_, _, points) => points

end Colloquy.Text.EastAsian
