/-
Moments in time, read off a count of seconds since the start of 1970, and their
calendar date in the Gregorian calendar, without leap seconds.

A moment is kept to the microsecond. The fraction of the count is first scaled
as a floating-point number and then rounded to the nearest microsecond, a tie
going to the even one; a text that shows no fraction cuts it off instead. A
count that is a whole number is taken as it is, however large.
-/
import Colloquy.Number.Decimal

namespace Colloquy

-- ========================================================== calendar

/-- A day of the calendar. -/
structure Date where
  year : Int
  month : Nat
  day : Nat
deriving DecidableEq, Repr

/-- The day that lies `days` days after the first of January 1970. Years are
counted from March, which puts the leap day at the end; 400 years have 146097
days. -/
def Date.ofDays (days : Int) : Date :=
  let shifted := days + 719468
  let era := shifted.fdiv 146097
  let dayOfEra := (shifted - era * 146097).toNat
  let yearOfEra :=
    (dayOfEra - dayOfEra / 1460 + dayOfEra / 36524 - dayOfEra / 146096) / 365
  let dayOfYear :=
    dayOfEra - (365 * yearOfEra + yearOfEra / 4 - yearOfEra / 100)
  let monthFromMarch := (5 * dayOfYear + 2) / 153
  let day := dayOfYear - (153 * monthFromMarch + 2) / 5 + 1
  let month :=
    if monthFromMarch < 10 then monthFromMarch + 3 else monthFromMarch - 9
  { year := yearOfEra + era * 400 + (if month ≤ 2 then 1 else 0), month, day }

-- ========================================================= moments

/-- A moment: whole seconds since the start of 1970, and microseconds. -/
structure Timestamp where
  seconds : Int
  micros : Nat := 0
deriving DecidableEq, Repr

namespace Timestamp

/-- A count of seconds: a whole number, or a floating-point one. -/
inductive Count
  | whole (n : Int)
  | real (x : Binary64)

/-- Why a count of seconds has no text. -/
inductive Fault
  | notANumber
  | tooLarge
  | unrepresentable
  | yearOutOfRange (year : Int)
  | yearTooLarge
deriving DecidableEq, Repr

/-- The wording of a fault. -/
def Fault.message : Fault → String
  | .notANumber => "Invalid value NaN (not a number)"
  | .tooLarge => "timestamp out of range for platform time_t"
  | .unrepresentable => "[Errno 75] Value too large for defined data type"
  | .yearOutOfRange year => s!"year {year} is out of range"
  | .yearTooLarge => "signed integer is greater than maximum"

/-- A magnitude in two parts: its whole part, and its fraction in microseconds,
rounded. -/
def wholeAndMicros (significand : Nat) (exponent : Int) : Nat × Nat :=
  let (num, den) := Binary64.toRatio significand exponent
  let scaled := match Binary64.ofRatio false ((num % den) * 1000000) den with
    | .finite _ m e =>
      let (n, d) := Binary64.toRatio m e
      Binary64.roundDiv n d
    | _ => 0
  (num / den, scaled)

/-- The greatest year that fits 32 bits. -/
def greatestYear : Int := twoTo 31 - 1

/-- A moment that can be broken down: its seconds lie in the range of 64 bits,
as a count of its kind tells, and its year fits 32 bits when counted from
1900. -/
def bounded (greatest : Int) (t : Timestamp) : Except Fault Timestamp :=
  if t.seconds < -(twoTo 63 : Int) ∨ greatest < t.seconds then .error .tooLarge
  else
    let year := (Date.ofDays (t.seconds.fdiv 86400)).year - 1900
    if year < -greatestYear - 1 ∨ greatestYear < year then
      .error .unrepresentable
    else .ok t

/-- The moment after a whole number of seconds. -/
def ofWhole (n : Int) : Except Fault Timestamp := bounded (twoTo 63 - 1) ⟨n, 0⟩

/-- The moment after a floating-point number of seconds. The greatest count of
64 bits is none of these numbers; the next one stands for it in the
comparison. -/
def ofReal (t : Timestamp) : Except Fault Timestamp := bounded (twoTo 63) t

/-- The moment after a count of seconds, to the nearest microsecond. -/
def ofSeconds : Count → Except Fault Timestamp
  | .whole n => ofWhole n
  | .real .nan => .error .notANumber
  | .real (.infinite _) => .error .tooLarge
  | .real (.finite negative m e) =>
    let (whole, micros) := wholeAndMicros m e
    ofReal (
      if negative then
        if micros = 0 then ⟨-whole, 0⟩ else ⟨-whole - 1, 1000000 - micros⟩
      else if micros ≥ 1000000 then ⟨whole + 1, micros - 1000000⟩
      else ⟨whole, micros⟩)

/-- The moment after a count of seconds, its fraction cut off. -/
def ofSecondsDown : Count → Except Fault Timestamp
  | .whole n => ofWhole n
  | .real .nan => .error .notANumber
  | .real x =>
    match x.floor with
    | none => .error .tooLarge
    | some seconds => ofReal ⟨seconds, 0⟩

/-- A number with zeros in front, at least `width` digits long. -/
def padded (width n : Nat) : String :=
  let digits := toString n
  "".pushn '0' (width - digits.length) ++ digits

/-- The date of a moment. -/
def date (t : Timestamp) : Date := Date.ofDays (t.seconds.fdiv 86400)

/-- The time of day of a moment, to the second. -/
def clockText (t : Timestamp) : String :=
  let s := (t.seconds.fmod 86400).toNat
  padded 2 (s / 3600) ++ ":" ++ padded 2 (s / 60 % 60) ++ ":"
    ++ padded 2 (s % 60)

/-- The month and the day of a moment. -/
def monthDayText (d : Date) : String :=
  padded 2 d.month ++ "-" ++ padded 2 d.day

/-- The full text of a moment: date, time and the offset of universal time. A
fraction is shown only if there is one. Years go from 1 to 9999; one above 32
bits is named as it wraps around. -/
def isoText (t : Timestamp) : Except Fault String :=
  let d := t.date
  if greatestYear < d.year then .error (.yearOutOfRange (d.year - twoTo 32))
  else if d.year < 1 ∨ 9999 < d.year then .error (.yearOutOfRange d.year)
  else
    .ok (padded 4 d.year.toNat ++ "-" ++ monthDayText d ++ "T" ++ t.clockText
      ++ (if t.micros = 0 then "" else "." ++ padded 6 t.micros) ++ "+00:00")

/-- The short text of a moment: date and time. Its year fits 32 bits. -/
def plainText (t : Timestamp) : Except Fault String :=
  let d := t.date
  if greatestYear < d.year then .error .yearTooLarge
  else .ok (toString d.year ++ "-" ++ monthDayText d ++ " " ++ t.clockText)

end Timestamp
end Colloquy
