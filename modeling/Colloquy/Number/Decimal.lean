/-
Decimal text of floating-point numbers, both ways.

Reading takes the number nearest to the decimal. Writing takes the fewest
significant digits that read back as the number, and of those the nearest; the
digits stand in positional notation while the decimal point falls among them or
at most a few zeros away, and with an exponent of at least two digits beyond
that. A whole number keeps one zero after its point, so that the text of a
floating-point number is never that of an integer.
-/
import Colloquy.Number.Binary64
import Colloquy.Text.Blank
import Colloquy.Text.Casing

namespace Colloquy
namespace Binary64

-- =========================================================== writing

/-- The number nearest to `digits` times ten to the `exponent`. -/
def ofDecimal (negative : Bool) (digits : Nat) (exponent : Int) : Binary64 :=
  if exponent ≥ 0 then ofRatio negative (digits * tenTo exponent.toNat) 1
  else ofRatio negative digits (tenTo (-exponent).toNat)

/-- Whether `num / den` is at least ten to the `e`. -/
def atLeastTen (num den : Nat) (e : Int) : Bool :=
  if e ≥ 0 then num ≥ den * tenTo e.toNat else num * tenTo (-e).toNat ≥ den

/-- The place of the decimal point: the least `p` with `num / den` below ten to
the `p`. The search goes up from `p`, which is not above it. -/
def pointFrom : Nat → Nat → Nat → Int → Int
  | 0, _, _, p => p
  | fuel + 1, num, den, p =>
    if atLeastTen num den p then pointFrom fuel num den (p + 1) else p

/-- The decimal on the grid of ten to the `e` that is nearest to `num / den`
and reads back as `x`: the grid's neighbours below and above are the only
candidates. -/
def candidate? (x : Binary64) (num den : Nat) (e : Int) : Option Nat :=
  let (scaled, unit) :=
    if e ≥ 0 then (num, den * tenTo e.toNat) else (num * tenTo (-e).toNat, den)
  let below := scaled / unit
  let above := below + 1
  let nearestFirst :=
    let twice := 2 * (scaled % unit)
    if twice > unit || (twice == unit && below % 2 == 1) then [above, below]
    else [below, above]
  nearestFirst.find? fun d => ofDecimal false d e == x

/-- The fewest digits, at least `n` of them, that read back as the positive
number `x`: the digits and the exponent of their last place. -/
def shortestFrom (x : Binary64) (num den : Nat) (point : Int) :
    Nat → Nat → Nat × Int
  | 0, _ => (0, 0)
  | fuel + 1, n =>
    match candidate? x num den (point - n) with
    | some d => (d, point - n)
    | none => shortestFrom x num den point fuel (n + 1)

/-- The shortest decimal of a positive finite number. Seventeen digits always
suffice. -/
def shortest (significand : Nat) (exponent : Int) : Nat × Int :=
  let (num, den) := toRatio significand exponent
  let guess := ((leadingExponent num den) * 30103).fdiv 100000 - 1
  shortestFrom (.finite false significand exponent) num den
    (pointFrom 4 num den guess) 17 1

/-- A decimal exponent: a sign and at least two digits. -/
def exponentText (e : Int) : String :=
  let digits := toString e.natAbs
  (if e < 0 then "-" else "+")
    ++ (if digits.length < 2 then "0" ++ digits else digits)

/-- Digits with the decimal point after the first `point` of them. The notation
is positional for a point from three places before the first digit to sixteen
after it. -/
def layOut (digits : List Char) (point : Int) : String :=
  if -4 < point && point ≤ 16 then
    if point ≤ 0 then
      "0." ++ .ofList (List.replicate (-point).toNat '0' ++ digits)
    else
      let p := point.toNat
      if digits.length ≤ p then
        .ofList (digits ++ List.replicate (p - digits.length) '0') ++ ".0"
      else .ofList (digits.take p ++ '.' :: digits.drop p)
  else
    let fraction := digits.drop 1
    .ofList (digits.take 1)
      ++ (if fraction.isEmpty then "" else "." ++ .ofList fraction)
      ++ "e" ++ exponentText (point - 1)

/-- The text of a positive decimal without its trailing zeros. -/
def decimalText (digits : Nat) (exponent : Int) : String :=
  let all := (toString digits).toList
  let kept := (all.reverse.dropWhile (· == '0')).reverse
  layOut kept (all.length + exponent)

/-- The text of a floating-point number. -/
def text : Binary64 → String
  | .nan => "nan"
  | .infinite negative => if negative then "-inf" else "inf"
  | .finite negative m e =>
    (if negative then "-" else "")
      ++ (if m = 0 then "0.0" else let (d, k) := shortest m e; decimalText d k)

-- =========================================================== reading

/-- The first digits of the decimal digits of every script; each is followed by
the other nine in order. -/
def zeroDigits : List Nat := [
  0x30, 0x660, 0x6f0, 0x7c0, 0x966, 0x9e6, 0xa66, 0xae6, 0xb66, 0xbe6, 0xc66,
  0xce6, 0xd66, 0xde6, 0xe50, 0xed0, 0xf20, 0x1040, 0x1090, 0x17e0, 0x1810,
  0x1946, 0x19d0, 0x1a80, 0x1a90, 0x1b50, 0x1bb0, 0x1c40, 0x1c50, 0xa620,
  0xa8d0, 0xa900, 0xa9d0, 0xa9f0, 0xaa50, 0xabf0, 0xff10, 0x104a0, 0x10d30,
  0x11066, 0x110f0, 0x11136, 0x111d0, 0x112f0, 0x11450, 0x114d0, 0x11650,
  0x116c0, 0x11730, 0x118e0, 0x11950, 0x11c50, 0x11d50, 0x11da0, 0x16a60,
  0x16ac0, 0x16b50, 0x1d7ce, 0x1d7d8, 0x1d7e2, 0x1d7ec, 0x1d7f6, 0x1e140,
  0x1e2f0, 0x1e950, 0x1fbf0]

/-- The value of a decimal digit of any script. -/
def digitValue? (c : Char) : Option Nat :=
  (zeroDigits.find? fun z => z ≤ c.toNat && c.toNat ≤ z + 9).map (c.toNat - ·)

/-- Every digit of any script as the plain one. -/
def plainDigits (text : List Char) : List Char :=
  text.map fun c => match digitValue? c with
    | some d => Nat.digitChar d
    | none => c

/-- The text without its low lines, each of which must stand between two
digits. -/
def dropDigitSeparators : List Char → Option (List Char)
  | [] => some []
  | '_' :: _ => none
  | [c] => some [c]
  | c :: '_' :: d :: rest =>
    if c.isDigit && d.isDigit then
      (dropDigitSeparators (d :: rest)).map (c :: ·)
    else none
  | c :: d :: rest => (dropDigitSeparators (d :: rest)).map (c :: ·)

/-- The value of a run of plain digits. -/
def digitsValue (digits : List Char) : Nat :=
  digits.foldl (fun n c => 10 * n + (c.toNat - '0'.toNat)) 0

/-- The number nearest to a decimal of any size. A magnitude far outside the
range is settled by its digit count alone. -/
def ofDecimalDigits (negative : Bool) (digits : List Char) (exponent : Int) :
    Binary64 :=
  let significant := digits.dropWhile (· == '0')
  let size : Int := significant.length + exponent
  if significant.isEmpty || size < -400 then zero negative
  else if size > 400 then .infinite negative
  else ofDecimal negative (digitsValue significant) exponent

/-- An exponent: nothing, or its letter, a sign if there is one, and digits. -/
def exponent? : List Char → Option Int
  | [] => some 0
  | letter :: rest =>
    let (negative, digits) := match rest with
      | '-' :: ds => (true, ds)
      | '+' :: ds => (false, ds)
      | ds => (false, ds)
    if (letter == 'e' || letter == 'E') && !digits.isEmpty
      && digits.all Char.isDigit then
      let value : Int := digitsValue digits
      some (if negative then -value else value)
    else none

/-- A number without its sign: digits with or without a point, at least one of
them, and perhaps an exponent; or the words for infinity and for no number. -/
def ofUnsigned? (negative : Bool) (text : List Char) : Option Binary64 :=
  let word := Text.lower text
  if word == "inf".toList || word == "infinity".toList then
    some (.infinite negative)
  else if word == "nan".toList then some .nan
  else
    let whole := text.takeWhile Char.isDigit
    let (fraction, rest) := match text.dropWhile Char.isDigit with
      | '.' :: rest =>
        (rest.takeWhile Char.isDigit, rest.dropWhile Char.isDigit)
      | rest => ([], rest)
    if whole.isEmpty && fraction.isEmpty then none
    else
      (exponent? rest).map fun e =>
        ofDecimalDigits negative (whole ++ fraction) (e - fraction.length)

/-- The number that a text spells, blanks around it aside. -/
def ofText? (text : String) : Option Binary64 :=
  match dropDigitSeparators
    (plainDigits (Text.trimBy Text.isMargin text.toList)) with
  | some ('-' :: rest) => ofUnsigned? true rest
  | some ('+' :: rest) => ofUnsigned? false rest
  | some rest => ofUnsigned? false rest
  | none => none

end Binary64
end Colloquy
