/-
Reading JSON text. The grammar is the standard one with three more words for
numbers without a finite value. A repeated name in an object keeps its first
place and takes its last value.

A reading fails at the first place that cannot be continued, and the failure
names that place. Inside the reader a place is given by how much of the text
remains; the wrapper turns it into a number of code points from the start. An
integer with too many digits is refused as soon as it is read, which is not a
matter of grammar and so a failure of its own.

The reader takes at least one character between every second call of itself, so
twice the length of the text is fuel enough.
-/
import Colloquy.Value

namespace Colloquy.Json

-- ========================================================= failures

/-- What is wrong at the place where JSON text cannot be continued. -/
inductive Malformation
  | valueExpected
  | nameExpected
  | colonExpected
  | commaExpected
  | unterminatedString
  | controlCharacter
  | unknownEscape
  | badCodeEscape
  | extraData
  | byteOrderMark
deriving DecidableEq, Repr

/-- The short wording of a malformation. -/
def Malformation.message : Malformation → String
  | .valueExpected => "Expecting value"
  | .nameExpected => "Expecting property name enclosed in double quotes"
  | .colonExpected => "Expecting ':' delimiter"
  | .commaExpected => "Expecting ',' delimiter"
  | .unterminatedString => "Unterminated string starting at"
  | .controlCharacter => "Invalid control character at"
  | .unknownEscape => "Invalid \\escape"
  | .badCodeEscape => "Invalid \\uXXXX escape"
  | .extraData => "Extra data"
  | .byteOrderMark => "Unexpected UTF-8 BOM (decode using utf-8-sig)"

/-- Why a text could not be read: `place` counts code points from the start. -/
inductive ReadError
  | malformed (what : Malformation) (place : Nat)
  | tooManyDigits (digits : Nat)
deriving DecidableEq, Repr

/-- The most digits that an integer may have. -/
def maxDigits : Nat := 4300

/-- The wording for an integer with too many digits. -/
def tooManyDigitsMessage (digits : Nat) : String :=
  s!"Exceeds the limit ({maxDigits} digits) for integer string conversion: "
    ++ s!"value has {digits} digits; "
    ++ "use sys.set_int_max_str_digits() to increase the limit"

/-- The code point that ends a line. -/
def lineEnd : Nat := 10

/-- The wording of a failure, with line, column and position of its place in
`text`. -/
def ReadError.message (text : List Char) : ReadError → String
  | .malformed what place =>
    let before := (Text.points text).take place
    let line := before.count lineEnd + 1
    let column := (before.reverse.takeWhile (· != lineEnd)).length + 1
    s!"{what.message}: line {line} column {column} (char {place})"
  | .tooManyDigits digits => tooManyDigitsMessage digits

/-- A failure inside the reader, placed by the number of characters that
remain. -/
inductive Failure
  | malformed (what : Malformation) (remaining : Nat)
  | tooManyDigits (digits : Nat)

/-- The failure `what` in front of `rest`. -/
def failAt (what : Malformation) (rest : List Char) : Except Failure α :=
  .error (.malformed what rest.length)

-- ========================================================= strings

/-- The text after the spaces, tabs and line ends in front. -/
def skipSpace (text : List Char) : List Char :=
  text.dropWhile fun c => c == ' ' || c == '\t' || c == '\n' || c == '\r'

/-- The value of a hexadecimal digit. -/
def hexValue? (c : Char) : Option Nat :=
  if c.isDigit then some (c.toNat - '0'.toNat)
  else if 'a' ≤ c ∧ c ≤ 'f' then some (c.toNat - 'a'.toNat + 10)
  else if 'A' ≤ c ∧ c ≤ 'F' then some (c.toNat - 'A'.toNat + 10)
  else none

/-- Four hexadecimal digits as a code. -/
def code? : List Char → Option Nat
  | [a, b, c, d] => do
    let a ← hexValue? a
    let b ← hexValue? b
    let c ← hexValue? c
    let d ← hexValue? d
    return ((a * 16 + b) * 16 + c) * 16 + d
  | _ => none

/-- What the escape letter `c` stands for. -/
def escapeLetter? (c : Char) : Option Char :=
  if c = '\x22' ∨ c = '\\' ∨ c = '/' then some c
  else if c = 'b' then some '\x08'
  else if c = 'f' then some '\x0c'
  else if c = 'n' then some '\n'
  else if c = 'r' then some '\r'
  else if c = 't' then some '\t'
  else none

/-- Whether the code is the first half of a surrogate pair. -/
def isHighSurrogate (n : Nat) : Bool := 0xd800 ≤ n && n ≤ 0xdbff

/-- Whether the code is the second half of a surrogate pair. -/
def isLowSurrogate (n : Nat) : Bool := 0xdc00 ≤ n && n ≤ 0xdfff

/-- The code point of a surrogate pair. -/
def joinSurrogates (high low : Nat) : Nat :=
  0x10000 + (high - 0xd800) * 0x400 + (low - 0xdc00)

/-- A code escape, read after its backslash: `text` starts with the letter `u`.
Four digits must follow and one more character after them. A first half of a
surrogate pair takes in the escape after it, if that escape is the second
half. -/
def readCodeEscape (text : List Char) : Except Failure (Nat × List Char) :=
  let digits := text.drop 1
  if digits.length ≤ 4 then failAt .badCodeEscape text
  else match code? (digits.take 4) with
    | none => failAt .badCodeEscape text
    | some high =>
      let rest := digits.drop 4
      match rest with
      | '\\' :: 'u' :: after =>
        if isHighSurrogate high && 4 < after.length then
          match code? (after.take 4) with
          | none => failAt .badCodeEscape ('u' :: after)
          | some low =>
            if isLowSurrogate low then
              .ok (joinSurrogates high low, after.drop 4)
            else .ok (high, rest)
        else .ok (high, rest)
      | _ => .ok (high, rest)

/-- The text of a string up to its closing quote. `opening` is what remained at
its opening quote, where an unterminated string is reported. -/
def readContent (opening : Nat) :
    Nat → List Char → Except Failure (List Char × List Char)
  | 0, _ => .error (.malformed .unterminatedString opening)
  | _ + 1, [] => .error (.malformed .unterminatedString opening)
  | fuel + 1, c :: rest =>
    if c = '\x22' then .ok ([], rest)
    else if c = '\\' then
      match rest with
      | [] => .error (.malformed .unterminatedString opening)
      | 'u' :: _ => do
        let (code, rest) ← readCodeEscape rest
        let (content, rest) ← readContent opening fuel rest
        return (Text.ofPoint code ++ content, rest)
      | letter :: after =>
        match escapeLetter? letter with
        | none => failAt .unknownEscape (c :: rest)
        | some meant => do
          let (content, rest) ← readContent opening fuel after
          return (meant :: content, rest)
    else if c.toNat < 0x20 then failAt .controlCharacter (c :: rest)
    else do
      let (content, rest) ← readContent opening fuel rest
      return (c :: content, rest)

/-- A string, read after its opening quote. -/
def readString (text : List Char) : Except Failure (String × List Char) := do
  let (content, rest) ← readContent (text.length + 1) (text.length + 1) text
  return (.ofList content, rest)

-- ========================================================= numbers

/-- The value of a run of digits. -/
def integerValue (digits : List Char) : Nat :=
  digits.foldl (fun n c => 10 * n + (c.toNat - '0'.toNat)) 0

/-- The whole part of a number: a zero alone, or digits that start with another
one. -/
def wholePart : List Char → Option (List Char × List Char)
  | '0' :: rest => some (['0'], rest)
  | c :: rest =>
    if c.isDigit then
      some (c :: rest.takeWhile Char.isDigit, rest.dropWhile Char.isDigit)
    else none
  | [] => none

/-- The digits of a fraction, if there is a point with a digit after it. -/
def fractionPart : List Char → Option (List Char × List Char)
  | '.' :: c :: rest =>
    if c.isDigit then
      some (c :: rest.takeWhile Char.isDigit, rest.dropWhile Char.isDigit)
    else none
  | _ => none

/-- An exponent, if there is its letter, a sign perhaps, and a digit. -/
def exponentPart : List Char → Option (Int × List Char)
  | letter :: rest =>
    let (negative, digits) := match rest with
      | '-' :: ds => (true, ds)
      | '+' :: ds => (false, ds)
      | ds => (false, ds)
    let run := digits.takeWhile Char.isDigit
    if (letter == 'e' || letter == 'E') && !run.isEmpty then
      let value : Int := integerValue run
      some (if negative then -value else value, digits.dropWhile Char.isDigit)
    else none
  | [] => none

/-- A number after its sign. It is an integer unless it has a fraction or an
exponent. -/
def readUnsigned (negative : Bool) (text : List Char) (start : List Char) :
    Except Failure (Value × List Char) :=
  match wholePart text with
  | none => failAt .valueExpected start
  | some (whole, afterWhole) =>
    let fraction := fractionPart afterWhole
    let afterFraction := (fraction.map (·.2)).getD afterWhole
    let exponent := exponentPart afterFraction
    let rest := (exponent.map (·.2)).getD afterFraction
    if fraction.isNone && exponent.isNone then
      if whole.length > maxDigits then .error (.tooManyDigits whole.length)
      else
        let n : Int := integerValue whole
        .ok (.int (if negative then -n else n), rest)
    else
      let decimals := (fraction.map (·.1)).getD []
      let power := (exponent.map (·.1)).getD 0
      .ok (.float (.ofDecimalDigits negative (whole ++ decimals)
        (power - decimals.length)), rest)

/-- The word `word` with its value, if the text starts with it. -/
def readWord? (word : String) (value : Value) (text : List Char) :
    Option (Value × List Char) :=
  if word.toList.isPrefixOf text then some (value, text.drop word.length)
  else none

/-- The words that are values. -/
def wordValues : List (String × Value) := [
  ("null", .null), ("true", .bool true), ("false", .bool false),
  ("NaN", .float .nan), ("Infinity", .float (.infinite false)),
  ("-Infinity", .float (.infinite true))]

/-- A word or a number. -/
def readScalar (text : List Char) : Except Failure (Value × List Char) :=
  match wordValues.findSome? fun (word, value) =>
    readWord? word value text with
  | some found => .ok found
  | none => match text with
    | '-' :: rest => readUnsigned true rest text
    | _ => readUnsigned false text text

-- ====================================================== containers

mutual

/-- A value at the front of the text. -/
def readValue : Nat → List Char → Except Failure (Value × List Char)
  | 0, text => failAt .valueExpected text
  | fuel + 1, text =>
    match text with
    | '\x22' :: rest => do
      let (content, rest) ← readString rest
      return (.string content, rest)
    | '\x7b' :: rest =>
      match skipSpace rest with
      | '\x7d' :: rest => .ok (.map [], rest)
      | rest => readMembers fuel [] rest
    | '[' :: rest =>
      match skipSpace rest with
      | ']' :: rest => .ok (.list [], rest)
      | rest => readItems fuel [] rest
    | _ => readScalar text

/-- The items of an array from the front of the text on; `items` are those
before, the last one first. -/
def readItems :
    Nat → List Value → List Char → Except Failure (Value × List Char)
  | 0, _, text => failAt .valueExpected text
  | fuel + 1, items, text => do
    let (item, rest) ← readValue fuel text
    match skipSpace rest with
    | ']' :: rest => return (.list (item :: items).reverse, rest)
    | ',' :: rest => readItems fuel (item :: items) (skipSpace rest)
    | rest => failAt .commaExpected rest

/-- The members of an object from the front of the text on; `members` are those
before. -/
def readMembers :
    Nat → List (String × Value) → List Char
    → Except Failure (Value × List Char)
  | 0, _, text => failAt .nameExpected text
  | fuel + 1, members, text =>
    match text with
    | '\x22' :: rest => do
      let (name, rest) ← readString rest
      match skipSpace rest with
      | ':' :: rest => do
        let (value, rest) ← readValue fuel (skipSpace rest)
        let members := putEntry name value members
        match skipSpace rest with
        | '\x7d' :: rest => return (.map members, rest)
        | ',' :: rest => readMembers fuel members (skipSpace rest)
        | rest => failAt .commaExpected rest
      | rest => failAt .colonExpected rest
    | _ => failAt .nameExpected text

end

-- ========================================================= whole texts

/-- One value and nothing after it but space. -/
def readAll (text : List Char) : Except Failure Value := do
  match text with
  | '\ufeff' :: _ => failAt .byteOrderMark text
  | _ =>
    let (value, rest) ← readValue (2 * text.length + 2) (skipSpace text)
    match skipSpace rest with
    | [] => return value
    | rest => failAt .extraData rest

/-- The value that a JSON text says. -/
def read (text : List Char) : Except ReadError Value :=
  match readAll text with
  | .ok value => .ok value
  | .error (.malformed what remaining) =>
    .error (.malformed what (Text.size (text.take (text.length - remaining))))
  | .error (.tooManyDigits digits) => .error (.tooManyDigits digits)

end Colloquy.Json
