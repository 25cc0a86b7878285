/-
Bytes read as text. How the front is read is a step; a text is read step by
step. Reading either gives the text or names the first place where a step
fails: the bytes at fault there and the reason.
-/
import Colloquy.Text.Quoted

namespace Colloquy.Text.Decoding

-- ============================================================ faults

/-- Why bytes spell no code point. -/
inductive Reason
  | invalidStart
  | invalidContinuation
  | unexpectedEnd
  | truncated
  | unpaired
  | misplaced
  | half
  | tooGreat
  | notAscii
  | undefined
  | partialCharacter
  | nonZeroPadding
  | illFormed
  | special
  | unterminatedShift
  | loneBackslash
  | truncatedEscape (form : String)
  | illegalPoint
  | outOfRange
  | malformedName
  | unknownName
  | illegalSequence
  | incompleteSequence
deriving DecidableEq, Repr

/-- The wording of a reason. -/
def Reason.message : Reason → String
  | .invalidStart => "invalid start byte"
  | .invalidContinuation => "invalid continuation byte"
  | .unexpectedEnd => "unexpected end of data"
  | .truncated => "truncated data"
  | .unpaired => "illegal UTF-16 surrogate"
  | .misplaced => "illegal encoding"
  | .half => "code point in surrogate code point range(0xd800, 0xe000)"
  | .tooGreat => "code point not in range(0x110000)"
  | .notAscii => "ordinal not in range(128)"
  | .undefined => "character maps to <undefined>"
  | .partialCharacter => "partial character in shift sequence"
  | .nonZeroPadding => "non-zero padding bits in shift sequence"
  | .illFormed => "ill-formed sequence"
  | .special => "unexpected special character"
  | .unterminatedShift => "unterminated shift sequence"
  | .loneBackslash => "\\ at end of string"
  | .truncatedEscape form => "truncated \\" ++ form ++ " escape"
  | .illegalPoint => "illegal Unicode character"
  | .outOfRange => "\\Uxxxxxxxx out of range"
  | .malformedName => "malformed \\N character escape"
  | .unknownName => "unknown Unicode character name"
  | .illegalSequence => "illegal multibyte sequence"
  | .incompleteSequence => "incomplete multibyte sequence"

/-- The place where bytes stop being text: the label of the encoding, the
position, the bytes at fault and the reason. -/
structure Fault where
  label : String
  position : Nat
  bytes : List UInt8
  reason : Reason
deriving DecidableEq, Repr

/-- The wording of a fault. -/
def Fault.message (fault : Fault) : String :=
  let what := match fault.bytes with
    | [b] =>
      s!"byte 0x{String.ofList (hexDigits 2 b.toNat)} "
        ++ s!"in position {fault.position}"
    | bytes =>
      s!"bytes in position {fault.position}-"
        ++ s!"{fault.position + bytes.length - 1}"
  s!"'{fault.label}' codec can't decode {what}: {fault.reason.message}"

-- =========================================================== reading

/-- How the front is read, from the first byte and those after it: the code
points that it spells and the number of bytes after the first that belong to
them, or the number of bytes at fault and the reason. -/
abbrev Step := UInt8 → List UInt8 → Except (Nat × Reason) (List Nat × Nat)

/-- The text of the bytes after the first `skip`. `position` is that of the
front, and `text` holds, in reverse, what has been read. -/
def decodeFrom (label : String) (step : Step) (text : List Char)
    (position : Nat) :
    Nat → List UInt8 → Except Fault (List Char)
  | _, [] => .ok text.reverse
  | skip + 1, _ :: rest => decodeFrom label step text (position + 1) skip rest
  | 0, b :: rest =>
    match step b rest with
    | .ok (points, following) =>
      decodeFrom label step ((ofPoints points).reverse ++ text) (position + 1)
        following rest
    | .error (length, reason) =>
      .error { label, position, bytes := (b :: rest).take length, reason }

/-- The text that bytes spell, where each code point is read by a step. -/
def decode (label : String) (step : Step) (bytes : List UInt8) :
    Except Fault (List Char) :=
  decodeFrom label step [] 0 0 bytes

end Colloquy.Text.Decoding
