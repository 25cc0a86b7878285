/-
UTF-7. Bytes below 128 stand for themselves, but a plus sign starts a section
in base 64, which spells units of sixteen bits and ends at the first byte that
is no digit; a minus sign there belongs to the section. A plus sign followed by
a minus sign stands for itself.
-/
import Colloquy.Text.Decoding

namespace Colloquy.Text.Utf7

/-- The name of the encoding in reports. -/
def label : String := "utf7"

/-- The value of a digit in base 64. -/
def digit? (b : UInt8) : Option Nat :=
  let n := b.toNat
  if 0x41 ≤ n ∧ n ≤ 0x5a then some (n - 0x41)
  else if 0x61 ≤ n ∧ n ≤ 0x7a then some (n - 0x61 + 26)
  else if 0x30 ≤ n ∧ n ≤ 0x39 then some (n - 0x30 + 52)
  else if n = 0x2b then some 62
  else if n = 0x2f then some 63
  else none

/-- The byte that starts a section. -/
def plus : UInt8 := 0x2b

/-- The byte that may end a section. -/
def minus : UInt8 := 0x2d

-- ========================================================== sections

/-- A section that has begun: where it started, how many bits are left over and
what they are, and the first half of a pair that waits for the second. -/
structure Shift where
  start : Nat
  bits : Nat := 0
  value : Nat := 0
  half : Option Nat := none
deriving DecidableEq, Repr

namespace Shift

/-- A unit of sixteen bits, with the half that waits: the code points that are
spelled, and the half that waits then. -/
def join (half : Option Nat) (unit : Nat) : List Nat × Option Nat :=
  match half with
  | some first =>
    if isSecondHalf unit then ([pairPoint first unit], none)
    else if isFirstHalf unit then ([first], some unit)
    else ([first, unit], none)
  | none => if isFirstHalf unit then ([], some unit) else ([unit], none)

/-- A section with one more digit, and the code points that are spelled. -/
def add (s : Shift) (digit : Nat) : Shift × List Nat :=
  let value := s.value * 0x40 + digit
  let bits := s.bits + 6
  if bits < 16 then ({ s with bits, value }, [])
  else
    let left := 1 <<< (bits - 16)
    let (points, half) := join s.half (value / left)
    ({ s with bits := bits - 16, value := value % left, half }, points)

/-- What is wrong with a section that ends here, if anything is. -/
def fault? (s : Shift) : Option Decoding.Reason :=
  if 6 ≤ s.bits then some .partialCharacter
  else if s.value ≠ 0 then some .nonZeroPadding
  else none

/-- Whether something is missing from a section. -/
def isOpen (s : Shift) : Bool := s.half.isSome || s.fault?.isSome

end Shift

-- =========================================================== reading

/-- How a byte outside a section is read: the section that it starts, if it
does, the code points that it spells, and the number of bytes after it that
belong to it. -/
def plainStep (position : Nat) (b : UInt8) (rest : List UInt8) :
    Except (Nat × Decoding.Reason) (Option Shift × List Nat × Nat) :=
  if b = plus then
    match rest with
    | [] => .ok (some { start := position }, [], 0)
    | c :: _ =>
      if c = minus then .ok (none, [plus.toNat], 1)
      else if (digit? c).isSome then .ok (some { start := position }, [], 0)
      else .error (2, .illFormed)
  else if b.toNat < 0x80 then .ok (none, [b.toNat], 0)
  else .error (1, .special)

/-- The text of bytes, or where they are at fault, from there to where, and the
reason. What has been read of the text is given in reverse. -/
def readFrom (shift? : Option Shift) (position : Nat) (text : List Char) :
    List UInt8 → Except (Nat × Nat × Decoding.Reason) (List Char)
  | [] =>
    match shift? with
    | some s =>
      if s.isOpen then .error (s.start, position, .unterminatedShift)
      else .ok text.reverse
    | none => .ok text.reverse
  | b :: rest =>
    let plain (text : List Char) :
        Except (Nat × Nat × Decoding.Reason) (List Char) :=
      match plainStep position b rest with
      | .error (length, reason) => .error (position, position + length, reason)
      | .ok (next, points, following) =>
        readFrom next (position + 1 + following)
          ((ofPoints points).reverse ++ text) (rest.drop following)
    match shift? with
    | none => plain text
    | some s =>
      match digit? b with
      | some digit =>
        let (next, points) := s.add digit
        readFrom (some next) (position + 1)
          ((ofPoints points).reverse ++ text) rest
      | none =>
        match s.fault? with
        | some reason => .error (s.start, position + 1, reason)
        | none =>
          let text :=
            if b.toNat < 0x80 then (ofPoints s.half.toList).reverse ++ text
            else text
          if b = minus then readFrom none (position + 1) text rest
          else plain text
termination_by bytes => bytes.length
decreasing_by all_goals simp; try omega

/-- The text that bytes spell. -/
def decode (bytes : List UInt8) : Except Decoding.Fault (List Char) :=
  (readFrom none 0 [] bytes).mapError fun (start, stop, reason) =>
    { label, position := start,
      bytes := (bytes.drop start).take (stop - start), reason }

end Colloquy.Text.Utf7
