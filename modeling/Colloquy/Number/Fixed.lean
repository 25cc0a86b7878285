/-
Floating-point numbers in a given number of digits: with a fixed number of
places, with an exponent, or in the shorter of the two for a given number of
significant digits. Every digit is exact: the value is rounded once, to the
last place shown, and a tie goes to the even digit.

These functions write the magnitude of a finite number; the sign is for the
caller to put in front.
-/
import Colloquy.Number.Decimal

namespace Colloquy
namespace Binary64

/-- Digits with a point before the last `places` of them; with no places, the
point is shown only if `keepPoint` says so. -/
def pointAt (keepPoint : Bool) (places digits : Nat) : String :=
  let all := (toString digits).toList
  let all := List.replicate (places + 1 - all.length) '0' ++ all
  let whole := all.take (all.length - places)
  let fraction := all.drop (all.length - places)
  .ofList <|
    if fraction.isEmpty && !keepPoint then whole
    else whole ++ '.' :: fraction

/-- How many of `places` digits of a quotient have to be worked out: one that
comes out even within 1100 places has only zeros after its last digit. -/
def enoughPlaces (places num den : Nat) : Nat :=
  if places ≤ 1100 ∨ num * tenTo 1100 % den ≠ 0 then places
  else min places (1101 + Nat.log2 (num / den))

/-- A quotient with a fixed number of places. -/
def fixedText (keepPoint : Bool) (places num den : Nat) : String :=
  let enough := enoughPlaces places num den
  (pointAt keepPoint enough (roundDiv (num * tenTo enough) den)).pushn '0'
    (places - enough)

/-- A quotient scaled by ten to the minus `e` and rounded. -/
def roundTen (num den : Nat) (e : Int) : Nat :=
  if e ≥ 0 then roundDiv num (den * tenTo e.toNat)
  else roundDiv (num * tenTo (-e).toNat) den

/-- A quotient as `places + 1` digits and the exponent of the first of them.
Rounding may bring one digit more, which moves the exponent. -/
def scientific (places num den : Nat) : Nat × Int :=
  if num = 0 then (0, 0)
  else
    let guess := ((leadingExponent num den) * 30103).fdiv 100000 - 1
    let lead := pointFrom 4 num den guess - 1
    let digits := roundTen num den (lead - places)
    if digits ≥ tenTo (places + 1) then (digits / 10, lead + 1)
    else (digits, lead)

/-- A quotient with an exponent. -/
def exponentialText (keepPoint : Bool) (places num den : Nat) : String :=
  let enough := enoughPlaces places num den
  let (digits, e) := scientific enough num den
  (pointAt keepPoint enough digits).pushn '0' (places - enough) ++ "e"
    ++ exponentText e

/-- A text with a point, without the zeros at its end, and without the point if
it ends there. -/
def dropEndZeros (text : String) : String :=
  let cs := text.toList
  if cs.contains '.' then
    let kept := (cs.reverse.dropWhile (· == '0'))
    .ofList (match kept with
      | '.' :: rest => rest.reverse
      | rest => rest.reverse)
  else text

/-- A quotient in `precision` significant digits: positional while the exponent
of the first digit is at least -4 and below the precision, and without zeros at
the end unless `keepZeros` says so. -/
def generalText (keepZeros : Bool) (precision num den : Nat) : String :=
  let p := max precision 1
  let shown (places : Nat) : Nat :=
    if keepZeros then places else enoughPlaces places num den
  let trim := if keepZeros then id else dropEndZeros
  let enough := enoughPlaces (p - 1) num den
  let (digits, e) := scientific enough num den
  if -4 ≤ e ∧ e < p then
    trim (fixedText keepZeros (shown (p - 1 - e).toNat) num den)
  else
    trim ((pointAt keepZeros enough digits).pushn '0' (shown (p - 1) - enough))
      ++ "e" ++ exponentText e

end Binary64
end Colloquy
