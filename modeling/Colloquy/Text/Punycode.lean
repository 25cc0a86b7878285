/-
Punycode: a text in plain letters, digits and hyphens. What stands before the
last hyphen are the plain characters of the text; behind it numbers in letters
and digits say which other characters stand where. Each number says how far to
go from the last insertion, counting all places for one code point after
another.
-/
import Colloquy.Text.Decoding

namespace Colloquy.Text.Punycode

/-- Why a text is no Punycode: a plain character is none, a number breaks off,
a character is no digit, or a code point is too great. -/
inductive Fault
  | undecodable (fault : Decoding.Fault)
  | incomplete
  | notDigit (c : Char)
  | tooGreat (point : Nat)
deriving DecidableEq, Repr

/-- The wording of a fault. -/
def Fault.message : Fault → String
  | .undecodable fault => fault.message
  | .incomplete => "incomplete punicode string"
  | .notDigit c => "Invalid extended code point '" ++ String.singleton c ++ "'"
  | .tooGreat point =>
    "Invalid character U+" ++ .ofList (Nat.toDigits 16 point)

-- ============================================================ ASCII

/-- How a byte below 128 is read. -/
def asciiStep : Decoding.Step := fun b _ =>
  if b.toNat < 0x80 then .ok ([b.toNat], 0) else .error (1, .notAscii)

/-- The text that bytes below 128 spell. -/
def ascii (bytes : List UInt8) : Except Fault (List Char) :=
  (Decoding.decode "ascii" asciiStep bytes).mapError .undecodable

-- ========================================================== numbers

/-- The value of a digit; the letters come first. -/
def digit? (c : Char) : Option Nat :=
  if 'A' ≤ c ∧ c ≤ 'Z' then some (c.toNat - 'A'.toNat)
  else if c.isDigit then some (c.toNat - '0'.toNat + 26)
  else none

/-- The value from which on a digit is not the last one of its number. -/
def threshold (place bias : Nat) : Nat :=
  min (max (36 * (place + 1) - bias) 1) 26

/-- The number at the front and what stands after it. `weight` is that of the
digit at `place`. -/
def number (bias : Nat) (value weight place : Nat) :
    List Char → Except Fault (Nat × List Char)
  | [] => .error .incomplete
  | c :: rest =>
    match digit? c with
    | none => .error (.notDigit c)
    | some digit =>
      let value := value + digit * weight
      let least := threshold place bias
      if digit < least then .ok (value, rest)
      else number bias value (weight * (36 - least)) (place + 1) rest

/-- What is left of a step once it is small, and the places that a bias is
moved on by for that. -/
def reduced (step places : Nat) : Nat × Nat :=
  if 455 < step then reduced (step / 35) (places + 36) else (step, places)
termination_by step
decreasing_by omega

/-- The bias for the number after a step, in a text of so many characters. -/
def adapted (step : Nat) (isFirst : Bool) (size : Nat) : Nat :=
  let step := if isFirst then step / 700 else step / 2
  let (left, places) := reduced (step + step / size) 0
  places + 36 * left / (left + 38)

-- ======================================================= insertions

/-- The text with insertions made, the last of which was that of `point` just
before `place`. -/
def insertFrom (fuel : Nat) (isFirst : Bool) (bias point place : Nat)
    (points : List Nat)
    (numbers : List Char) : Except Fault (List Nat) :=
  match fuel, numbers with
  | 0, _ | _, [] => .ok points
  | fuel + 1, numbers => do
    let (step, rest) ← number bias 0 1 0 numbers
    let size := points.length + 1
    let place := place + step
    let point := point + place / size
    if 0x10ffff < point then throw (.tooGreat point)
    let points := points.insertIdx (place % size) point
    insertFrom fuel false (adapted step isFirst size) point (place % size + 1)
      points rest

/-- The first code point that is not plain. -/
def firstPoint : Nat := 0x80

/-- The bias for the first number. -/
def firstBias : Nat := 72

/-- The text that bytes spell. -/
def decode (bytes : List UInt8) : Except Fault (List Char) := do
  let behind := bytes.reverse.takeWhile (· ≠ 0x2d)
  let base ← ascii (bytes.take (bytes.length - behind.length - 1))
  let numbers := (← ascii behind.reverse).map Char.toUpper
  let points ←
    insertFrom numbers.length true firstBias firstPoint 0 (base.map Char.toNat)
      numbers
  return ofPoints points

-- ============================================================ labels

/-- What stands before a label in Punycode. -/
def labelLead : List UInt8 := "xn--".toUTF8.toList

/-- The text of a label between points. -/
def decodeLabel (bytes : List UInt8) : Except Fault (List Char) :=
  if labelLead.isPrefixOf bytes then decode (bytes.drop labelLead.length)
  else ascii bytes

/-- The labels of a name, between points. -/
def labels : List UInt8 → List (List UInt8)
  | [] => [[]]
  | b :: rest =>
    match labels rest with
    | [] => [[b]]
    | label :: more =>
      if b = 0x2e then [] :: label :: more else (b :: label) :: more

/-- The text of bytes below 128, in which labels between points may be in
Punycode. -/
def decodeLabels (bytes : List UInt8) : Except Fault (List Char) := do
  let _ ← ascii bytes
  return List.intercalate ['.'] (← (labels bytes).mapM decodeLabel)

end Colloquy.Text.Punycode
