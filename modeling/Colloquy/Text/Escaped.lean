/-
Text with escapes, in which every other byte stands for the code point with its
number. In the full form a backslash starts the escapes of single characters,
three octal digits, or two, four or eight hexadecimal ones, and a line end
behind it falls away; in the raw form there are only the last two. What starts
no escape stands for itself, the backslash too.

Escapes by name are recognized, but no names are known.
-/
import Colloquy.Text.Decoding

namespace Colloquy.Text.Escaped

/-- The byte that starts an escape. -/
def backslash : UInt8 := 0x5c

/-- The value of a hexadecimal digit. -/
def hexValue? (b : UInt8) : Option Nat :=
  let n := b.toNat
  if 0x30 ≤ n ∧ n ≤ 0x39 then some (n - 0x30)
  else if 0x61 ≤ n ∧ n ≤ 0x66 then some (n - 0x61 + 10)
  else if 0x41 ≤ n ∧ n ≤ 0x46 then some (n - 0x41 + 10)
  else none

/-- The escapes of single characters, by their letters. -/
def letters : List (Char × Nat) := [
  ('\\', 0x5c), ('\x27', 0x27), ('\x22', 0x22), ('b', 8), ('f', 12), ('t', 9),
  ('n', 10), ('r', 13), ('v', 11), ('a', 7)]

/-- The number that hexadecimal digits at the front spell, exactly so many, or
the number of them that there are. -/
def hexNumber (value : Nat) (good : Nat) : Nat → List UInt8 → Except Nat Nat
  | 0, _ => .ok value
  | _ + 1, [] => .error good
  | count + 1, b :: rest =>
    match hexValue? b with
    | some digit => hexNumber (value * 16 + digit) (good + 1) count rest
    | none => .error good

/-- How an escape of so many hexadecimal digits is read; `excess` is the reason
if the number is none of a code point. -/
def hexStep (form : String) (excess : Decoding.Reason) (count : Nat)
    (rest : List UInt8) :
    Except (Nat × Decoding.Reason) (List Nat × Nat) :=
  match hexNumber 0 0 count rest with
  | .error good => .error (2 + good, .truncatedEscape form)
  | .ok point =>
    if point < 0x110000 then .ok ([point], 1 + count)
    else .error (2 + count, excess)

/-- How an escape of four or eight digits is read, if that is what the letter
says. -/
def longStep? (excess : Decoding.Reason) (letter : UInt8) (rest : List UInt8) :
    Option (Except (Nat × Decoding.Reason) (List Nat × Nat)) :=
  match Char.ofNat letter.toNat with
  | 'u' => some (hexStep "uXXXX" excess 4 rest)
  | 'U' => some (hexStep "UXXXXXXXX" excess 8 rest)
  | _ => none

/-- How an escape by name is read. -/
def nameStep : List UInt8 → Except (Nat × Decoding.Reason) (List Nat × Nat)
  | 0x7b :: rest =>
    let name := rest.takeWhile (· ≠ 0x7d)
    if name.length = rest.length then .error (3 + name.length, .malformedName)
    else if name.isEmpty then .error (3, .malformedName)
    else .error (4 + name.length, .unknownName)
  | _ => .error (2, .malformedName)

/-- The octal digits at the front, three at most. -/
def octalDigits (bytes : List UInt8) : List Nat :=
  ((bytes.take 3).takeWhile fun b => 0x30 ≤ b && b ≤ 0x37).map fun b =>
    b.toNat - 0x30

/-- How the front of the full form is read. -/
def step : Decoding.Step := fun b rest =>
  if b ≠ backslash then .ok ([b.toNat], 0)
  else match rest with
    | [] => .error (1, .loneBackslash)
    | letter :: more =>
      match letters.lookup (Char.ofNat letter.toNat),
        longStep? .illegalPoint letter more with
      | some point, _ => .ok ([point], 1)
      | none, some result => result
      | none, none =>
        match Char.ofNat letter.toNat, octalDigits rest with
        | '\n', _ => .ok ([], 1)
        | 'x', _ => hexStep "xXX" .illegalPoint 2 more
        | 'N', _ => nameStep more
        | _, [] => .ok ([b.toNat, letter.toNat], 1)
        | _, digits =>
          .ok ([digits.foldl (fun n d => n * 8 + d) 0], digits.length)

/-- How the front of the raw form is read. -/
def rawStep : Decoding.Step := fun b rest =>
  if b ≠ backslash then .ok ([b.toNat], 0)
  else match rest with
    | [] => .ok ([b.toNat], 0)
    | letter :: more =>
      (longStep? .outOfRange letter more).getD
        (.ok ([b.toNat, letter.toNat], 1))

/-- The text that bytes spell in the full form. -/
def decode (bytes : List UInt8) : Except Decoding.Fault (List Char) :=
  Decoding.decode "unicodeescape" step bytes

/-- The text that bytes spell in the raw form. -/
def decodeRaw (bytes : List UInt8) : Except Decoding.Fault (List Char) :=
  Decoding.decode "rawunicodeescape" rawStep bytes

end Colloquy.Text.Escaped
