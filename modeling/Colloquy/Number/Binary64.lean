/-
Floating-point numbers with 53 significant bits and an exponent of eleven, as
exact data: a finite number is a sign, a whole significand and a power of two.
All arithmetic on them is arithmetic on natural numbers, so every rounding
below is the one place where a value is lost.

A significand of a finite number is below 2 to the 53, and the exponent is the
least that it can be, down to -1074; so every number has one form.
-/

namespace Colloquy

-- ============================================================ powers

/-- Two to the `n`. -/
def twoTo (n : Nat) : Nat := Nat.pow 2 n

/-- Ten to the `n`. -/
def tenTo (n : Nat) : Nat := Nat.pow 10 n

-- =========================================================== numbers

/-- A floating-point number: `finite negative m e` is m times 2 to the e. -/
inductive Binary64
  | nan
  | infinite (negative : Bool)
  | finite (negative : Bool) (significand : Nat) (exponent : Int)
deriving DecidableEq, Repr, Inhabited

namespace Binary64

-- ========================================================== rounding

/-- The whole number nearest to `num / den`; a tie goes to the even one. -/
def roundDiv (num den : Nat) : Nat :=
  let q := num / den
  let twice := 2 * (num % den)
  if twice > den || (twice == den && q % 2 == 1) then q + 1 else q

/-- `num / den` times two to the minus `e`, rounded to a whole number. -/
def roundScaled (num den : Nat) (e : Int) : Nat :=
  if e ≥ 0 then roundDiv num (den <<< e.toNat)
  else roundDiv (num <<< (-e).toNat) den

/-- Whether `num / den` is at least two to the `e`. -/
def atLeastPow (num den : Nat) (e : Int) : Bool :=
  if e ≥ 0 then num ≥ den <<< e.toNat else num <<< (-e).toNat ≥ den

/-- The exponent of the leading bit of a positive quotient: the greatest `e`
with two to the `e` at most `num / den`. The lengths of the two numbers leave
two candidates. -/
def leadingExponent (num den : Nat) : Int :=
  let guess : Int := num.log2 - den.log2
  if atLeastPow num den guess then guess else guess - 1

/-- Zero, with a sign. -/
def zero (negative : Bool) : Binary64 := .finite negative 0 (-1074)

/-- The number nearest to `num / den`, a tie going to the even significand;
beyond the greatest finite number it is infinite. -/
def ofRatio (negative : Bool) (num den : Nat) : Binary64 :=
  if num = 0 then zero negative
  else
    let e := max (leadingExponent num den - 52) (-1074)
    let m := roundScaled num den e
    let (m, e) := if m = twoTo 53 then (twoTo 52, e + 1) else (m, e)
    if e > 971 then .infinite negative else .finite negative m e

-- ===================================================== exact readings

/-- A finite magnitude as a quotient of whole numbers. -/
def toRatio (significand : Nat) (exponent : Int) : Nat × Nat :=
  if exponent ≥ 0 then (significand <<< exponent.toNat, 1)
  else (significand, 1 <<< (-exponent).toNat)

/-- The whole number that the value is, if it is one. -/
def toInt? : Binary64 → Option Int
  | .finite negative m e =>
    let (num, den) := toRatio m e
    if num % den = 0 then
      some (if negative then -(num / den : Nat) else (num / den : Nat))
    else none
  | _ => none

/-- Whether the value is finite. -/
def isFinite : Binary64 → Bool
  | .finite .. => true
  | _ => false

/-- The greatest whole number not above a finite value. -/
def floor : Binary64 → Option Int
  | .finite negative m e =>
    let (num, den) := toRatio m e
    some (Int.fdiv (if negative then -(num : Int) else num) den)
  | _ => none

-- ================================================================ sums

/-- A finite value in units of two to the `low`, which must not be above its
exponent. -/
def inUnits (low : Int) (negative : Bool) (significand : Nat)
    (exponent : Int) : Int :=
  let n : Int := (significand <<< (exponent - low).toNat : Nat)
  if negative then -n else n

/-- The sum, rounded once. A sum of zero is negative only if both parts are. -/
def add : Binary64 → Binary64 → Binary64
  | .finite a m e, .finite b n f =>
    let low := min e f
    let sum := inUnits low a m e + inUnits low b n f
    if sum = 0 then zero (a && b)
    else
      let (num, den) := toRatio sum.natAbs low
      ofRatio (sum < 0) num den
  | .infinite a, .infinite b => if a = b then .infinite a else .nan
  | .infinite a, .finite .. | .finite .., .infinite a => .infinite a
  | .nan, _ | _, .nan => .nan

end Binary64
end Colloquy
