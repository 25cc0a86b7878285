/-
Blank characters, and the two things that depend on them: trimming a text and
counting its words. A word is a maximal run of characters that are not blank,
so the number of words does not depend on how much blank space lies between
them.

Blank here means the white space of Unicode together with the four separator
controls U+001C to U+001F.
-/
import Colloquy.Text.Points

namespace Colloquy.Text

/-- The blank characters. -/
def blanks : Ranges := [
  (0x09, 0x0d), (0x1c, 0x20), (0x85, 0x85), (0xa0, 0xa0), (0x1680, 0x1680),
  (0x2000, 0x200a), (0x2028, 0x2029), (0x202f, 0x202f), (0x205f, 0x205f),
  (0x3000, 0x3000)]

/-- Whether `c` is blank. -/
def isBlank (c : Char) : Bool := blanks.covers c

/-- The blanks that may stand around a number: all but the four separator
controls. -/
def isMargin (c : Char) : Bool :=
  isBlank c && !(0x1c ≤ c.toNat && c.toNat ≤ 0x1f)

-- ========================================================== trimming

/-- `text` without the characters at both ends that satisfy `p`. -/
def trimBy (p : Char → Bool) (text : List Char) : List Char :=
  ((text.dropWhile p).reverse.dropWhile p).reverse

/-- `text` without the blanks at both ends. -/
def trim (text : String) : String := .ofList (trimBy isBlank text.toList)

/-- Whether `text` holds nothing but blanks. -/
def isAllBlank (text : List Char) : Bool := text.all isBlank

-- ============================================================= words

/-- The words of a text: the maximal runs of characters that are not blank. -/
def words : List Char → List (List Char)
  | [] => []
  | c :: rest =>
    if isBlank c then words rest
    else match rest, words rest with
      | d :: _, word :: more =>
        if isBlank d then [c] :: word :: more else (c :: word) :: more
      | _, more => [c] :: more

/-- The number of words in a text. -/
def wordCount (text : String) : Nat := (words text.toList).length

end Colloquy.Text
