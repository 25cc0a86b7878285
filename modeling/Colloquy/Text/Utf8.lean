/-
UTF-8. Reading either gives the text or names the first place where the bytes
stop being UTF-8: the bytes at fault and the reason.

The second byte of a longer form is held to a range of its own, which keeps out
overlong forms, surrogates and code points that are too great. When a form
breaks off, the bytes at fault are those that were good until then.
-/
import Colloquy.Text.Decoding

namespace Colloquy.Text.Utf8

-- =========================================================== writing

/-- The bytes of a code point. -/
def encodePoint (n : Nat) : List UInt8 :=
  if n < 0x80 then [.ofNat n]
  else if n < 0x800 then [.ofNat (0xc0 + n / 0x40), .ofNat (0x80 + n % 0x40)]
  else if n < 0x10000 then
    [.ofNat (0xe0 + n / 0x1000), .ofNat (0x80 + n / 0x40 % 0x40),
      .ofNat (0x80 + n % 0x40)]
  else
    [.ofNat (0xf0 + n / 0x40000), .ofNat (0x80 + n / 0x1000 % 0x40),
      .ofNat (0x80 + n / 0x40 % 0x40),
      .ofNat (0x80 + n % 0x40)]

/-- The bytes of a text. -/
def encode (text : List Char) : List UInt8 := (points text).flatMap encodePoint

-- =========================================================== reading

/-- A longer form as its first byte announces it: how many bytes follow, the
range of the second one, and the bits that the first one carries. -/
structure Form where
  following : Nat
  least : Nat
  greatest : Nat
  bits : Nat

/-- The form that a byte announces, if it announces one. -/
def form? (b : Nat) : Option Form :=
  if 0xc2 ≤ b ∧ b ≤ 0xdf then some ⟨1, 0x80, 0xbf, b - 0xc0⟩
  else if b = 0xe0 then some ⟨2, 0xa0, 0xbf, 0⟩
  else if b = 0xed then some ⟨2, 0x80, 0x9f, 0xd⟩
  else if 0xe1 ≤ b ∧ b ≤ 0xef then some ⟨2, 0x80, 0xbf, b - 0xe0⟩
  else if b = 0xf0 then some ⟨3, 0x90, 0xbf, 0⟩
  else if 0xf1 ≤ b ∧ b ≤ 0xf3 then some ⟨3, 0x80, 0xbf, b - 0xf0⟩
  else if b = 0xf4 then some ⟨3, 0x80, 0x8f, 4⟩
  else none

/-- The code point of a form from its following bytes, or the number of good
ones among them and why the next is not. -/
def continued : Form → List UInt8 → Except (Nat × Decoding.Reason) Nat
  | ⟨0, _, _, bits⟩, _ => .ok bits
  | ⟨_ + 1, _, _, _⟩, [] => .error (0, .unexpectedEnd)
  | ⟨n + 1, least, greatest, bits⟩, b :: rest =>
    if least ≤ b.toNat ∧ b.toNat ≤ greatest then
      match continued ⟨n, 0x80, 0xbf, bits * 0x40 + (b.toNat - 0x80)⟩ rest with
      | .ok code => .ok code
      | .error (good, reason) => .error (good + 1, reason)
    else .error (0, .invalidContinuation)

/-- How the code point at the front is read. -/
def step : Decoding.Step := fun b rest =>
  if b.toNat < 0x80 then .ok ([b.toNat], 0)
  else match form? b.toNat with
    | none => .error (1, .invalidStart)
    | some form =>
      match continued form rest with
      | .ok code => .ok ([code], form.following)
      | .error (good, reason) => .error (good + 1, reason)

/-- The name of the encoding in reports. -/
def label : String := "utf-8"

/-- The text that bytes spell. -/
def decode (bytes : List UInt8) : Except Decoding.Fault (List Char) :=
  Decoding.decode label step bytes

end Colloquy.Text.Utf8
