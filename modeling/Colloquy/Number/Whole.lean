/-
Whole numbers out of other data: from text, where blanks around the digits,
leading zeros, a plus sign, single low lines between digits and a fraction of
zeros do no harm; and from floating-point numbers without a fraction.

A text that is too long says so only if it starts right away with its digits;
after anything that has to be cleared away first it just cannot be read.
-/
import Colloquy.Number.Binary64
import Colloquy.Text.Blank

namespace Colloquy
namespace Whole

/-- Why no whole number was found. -/
inductive Refused
  | unreadable
  | fractional
  | notFinite
  | oversized
deriving DecidableEq, Repr

/-- The most digits that a number in text may have. -/
def maxDigits : Nat := 4300

/-- The text after a run of leading zeros and low lines, `last` being the one
before. A zero is kept in front of a point, and at the end. Zeros may also
stand in front of a minus sign. -/
def afterZeros (last : Char) : List Char → Option (List Char)
  | [] => some [last]
  | c :: rest =>
    if c = '0' || c = '_' then afterZeros c rest
    else if c.isDigit || c = '-' then some (c :: rest)
    else if c = '.' then some (last :: c :: rest)
    else none

/-- The text without its leading zeros; only a digit may stand first. -/
def dropZeros : List Char → Option (List Char)
  | [] => none
  | c :: rest =>
    if c = '0' then afterZeros c rest
    else if c.isDigit then some (c :: rest)
    else none

/-- The text without a fraction that is all zeros, at least one of them. -/
def dropFraction (text : List Char) : List Char :=
  match text.dropWhile (· != '.') with
  | _ :: fraction =>
    if !fraction.isEmpty && fraction.all (· == '0') then
      text.takeWhile (· != '.')
    else text
  | [] => text

/-- Whether two low lines stand side by side. -/
def hasDoubleLine : List Char → Bool
  | '_' :: '_' :: _ => true
  | _ :: rest => hasDoubleLine rest
  | [] => false

/-- The text without its low lines, if each stands alone between other
characters. -/
def dropLines (text : List Char) : List Char :=
  if text.head? = some '_' || text.getLast? = some '_'
    || hasDoubleLine text then text
  else text.filter (· != '_')

/-- A magnitude in digits, without leading zeros. -/
def magnitude? (digits : List Char) : Option Nat :=
  if digits.isEmpty || !digits.all Char.isDigit
    || (digits.head? = some '0' && digits.length > 1)
    || digits.length > maxDigits then none
  else some (digits.foldl (fun n c => 10 * n + (c.toNat - '0'.toNat)) 0)

/-- A number in digits, perhaps with a minus sign in front. -/
def signed? : List Char → Option Int
  | '-' :: digits => (fun n : Nat => -(n : Int)) <$> magnitude? digits
  | digits => (fun n : Nat => (n : Int)) <$> magnitude? digits

/-- The digits of an unsigned number, with all cleared away that does no
harm. -/
def cleared? (text : List Char) : Option (List Char) :=
  (fun rest => dropLines (dropFraction rest)) <$> dropZeros text

/-- The number that a text spells once it is cleared. A sign stands first. -/
def spelled? (text : List Char) : Option Int :=
  match Text.trimBy Text.isMargin text with
  | '-' :: rest => (fun digits => '-' :: digits) <$> cleared? rest >>= signed?
  | '+' :: rest => cleared? rest >>= signed?
  | rest => cleared? rest >>= signed?

/-- Whether a text starts with more digits than a number may have. -/
def startsOversized (text : List Char) : Bool :=
  let digits := (match text with
    | '-' :: rest => rest
    | rest => rest).takeWhile Char.isDigit
  digits.head? ≠ some '0' && maxDigits < digits.length

/-- The number that a text spells. -/
def ofText (text : String) : Except Refused Int :=
  if startsOversized text.toList then .error .oversized
  else match spelled? text.toList with
    | some n => .ok n
    | none => .error .unreadable

/-- The number that a floating-point number is; it must lie strictly within 64
bits. -/
def ofBinary64 (x : Binary64) : Except Refused Int :=
  if !x.isFinite then .error .notFinite
  else match x.toInt? with
    | none => .error .fractional
    | some n =>
      if -(twoTo 63 : Int) < n ∧ n < twoTo 63 then .ok n else .error .oversized

end Whole
end Colloquy
