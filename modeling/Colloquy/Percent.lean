/-
Messages with percent directives. A directive takes one of the arguments and
says how it is shown: as its text, quoted, or as a number in some base or with
some number of digits; in between come the flags, the least width and the
precision. A directive may also name its argument, if the arguments are a map.

The arguments must be used up exactly, unless they are a map.
-/
import Colloquy.Number.Fixed
import Colloquy.Value

namespace Colloquy
namespace Percent

-- ============================================================ faults

/-- Why a message cannot be put together. -/
inductive Fault
  | notEnough
  | leftOver
  | notAMap
  | wrongKind
  | missing (key : String)
  | incompleteKey
  | incomplete
  | unsupported (point index : Nat)
  | notANumber
  | infinite
  | tooLarge
  | codeOutOfRange
  | wideArgument
  | preciseArgument
  | wideLiteral
  | preciseLiteral
  | tooManyDigits
deriving DecidableEq, Repr

/-- A number in base sixteen, in lower case. -/
def hexText (n : Nat) : String := .ofList (Nat.toDigits 16 n)

/-- The wording of a fault. -/
def Fault.message : Fault → String
  | .notEnough => "not enough arguments for format string"
  | .leftOver => "not all arguments converted during string formatting"
  | .notAMap => "format requires a mapping"
  | .wrongKind => "an argument of another kind is required"
  | .missing key => Text.quoted key
  | .incompleteKey => "incomplete format key"
  | .incomplete => "incomplete format"
  | .unsupported point index =>
    let shown := if 31 ≤ point ∧ point ≤ 126 then .ofNat point else '?'
    s!"unsupported format character '{shown}' "
      ++ s!"(0x{hexText point}) at index {index}"
  | .notANumber => "cannot convert float NaN to integer"
  | .infinite => "cannot convert float infinity to integer"
  | .tooLarge => "int too large to convert to float"
  | .codeOutOfRange => "%c arg not in range(0x110000)"
  | .wideArgument => "Python int too large to convert to C ssize_t"
  | .preciseArgument => "Python int too large to convert to C int"
  | .wideLiteral => "width too big"
  | .preciseLiteral => "precision too big"
  | .tooManyDigits => "precision too large"

-- ======================================================== directives

/-- The flags of a directive. -/
structure Flags where
  left : Bool := false
  plus : Bool := false
  blank : Bool := false
  alternate : Bool := false
  zero : Bool := false

/-- A number in three parts, so that zeros can be put between the last two. -/
structure Parts where
  sign : String := ""
  mark : String := ""
  body : String

/-- Parts in at least `width` characters. -/
def Parts.lay (flags : Flags) (width : Nat) (zeros : Bool) (p : Parts) :
    String :=
  let missing :=
    width - (p.sign.length + p.mark.length + Text.size p.body.toList)
  if flags.left then p.sign ++ p.mark ++ p.body ++ "".pushn ' ' missing
  else if zeros then p.sign ++ p.mark ++ "".pushn '0' missing ++ p.body
  else "".pushn ' ' missing ++ p.sign ++ p.mark ++ p.body

/-- The sign of a number. -/
def signText (flags : Flags) (negative : Bool) : String :=
  if negative then "-"
  else if flags.plus then "+"
  else if flags.blank then " "
  else ""

/-- A value as a whole number for a decimal directive; a floating-point number
loses its fraction. -/
def decimalOf : Value → Except Fault Int
  | .int n => .ok n
  | .bool b => .ok (if b then 1 else 0)
  | .float .nan => .error .notANumber
  | .float (.infinite _) => .error .infinite
  | .float (.finite negative m e) =>
    let (num, den) := Binary64.toRatio m e
    .ok (if negative then -(num / den : Nat) else (num / den : Nat))
  | _ => .error .wrongKind

/-- A value as a whole number for the other bases. -/
def integerOf : Value → Except Fault Int
  | .int n => .ok n
  | .bool b => .ok (if b then 1 else 0)
  | _ => .error .wrongKind

/-- A value as a floating-point number. -/
def floatOf : Value → Except Fault Binary64
  | .float x => .ok x
  | .int n =>
    match Binary64.ofRatio (n < 0) n.natAbs 1 with
    | .infinite _ => .error .tooLarge
    | x => .ok x
  | .bool b => .ok (Binary64.ofRatio false (if b then 1 else 0) 1)
  | _ => .error .wrongKind

/-- The greatest number of digits that can be asked for in a whole number: with
a sign and a mark of two characters its length fits 31 bits. -/
def greatestPrecision : Nat := twoTo 31 - 4

/-- A whole number in a base, with at least `precision` digits. -/
def wholeParts (flags : Flags) (base : Nat) (mark : String)
    (precision : Option Nat) (n : Int) :
    Except Fault Parts :=
  let digits : String := .ofList (Nat.toDigits base n.natAbs)
  if greatestPrecision < precision.getD 0 then .error .tooManyDigits
  else .ok {
    sign := signText flags (n < 0)
    mark := if flags.alternate then mark else ""
    body := "".pushn '0' (precision.getD 0 - digits.length) ++ digits }

/-- A text in upper case letters of ASCII. -/
def raised (text : String) : String := text.map Char.toUpper

/-- A floating-point number in one of the three notations. -/
def floatParts (flags : Flags) (conversion : Char) (precision : Option Nat)
    (x : Binary64) : Parts :=
  let p := precision.getD 6
  match x with
  | .nan => { sign := signText flags false, body := "nan" }
  | .infinite negative => { sign := signText flags negative, body := "inf" }
  | .finite negative m e =>
    let (num, den) := Binary64.toRatio m e
    { sign := signText flags negative
      body := match conversion with
        | 'e' => Binary64.exponentialText flags.alternate p num den
        | 'f' => Binary64.fixedText flags.alternate p num den
        | _ => Binary64.generalText flags.alternate p num den }

/-- The quoted form of a value in ASCII alone. -/
def asciiShown (v : Value) : String :=
  .ofList (v.shown.toList.flatMap fun c =>
    if c.toNat < 0x80 then [c] else Text.escapeCode c.toNat)

/-- The character of a value: a code point, or a text of one character. -/
def characterOf : Value → Except Fault String
  | .int n =>
    if 0 ≤ n ∧ n < 0x110000 then .ok (.ofList (Text.ofPoint n.toNat))
    else .error .codeOutOfRange
  | .bool b => .ok (.singleton (.ofNat (if b then 1 else 0)))
  | .string s => if Text.size s.toList = 1 then .ok s else .error .wrongKind
  | _ => .error .wrongKind

/-- A value converted and laid out as a directive asks. `unsupported` is the
fault of a conversion that there is not. -/
def layConverted (flags : Flags) (width : Nat) (precision : Option Nat)
    (conversion : Char) (unsupported : Fault) (v : Value) :
    Except Fault String := do
  let cut (text : String) : String :=
    Parts.lay flags width false
      { body := match precision with
          | some p => .ofList (Text.takePoints p text.toList)
          | none => text }
  let whole (base : Nat) (mark : String) (n : Int) : Except Fault Parts :=
    wholeParts flags base mark precision n
  match conversion with
  | 's' => return cut v.text
  | 'r' => return cut v.shown
  | 'a' => return cut (asciiShown v)
  | 'c' => return Parts.lay flags width false { body := ← characterOf v }
  | 'd' | 'i' | 'u' =>
    return (← whole 10 "" (← decimalOf v)).lay flags width flags.zero
  | 'o' => return (← whole 8 "0o" (← integerOf v)).lay flags width flags.zero
  | 'x' => return (← whole 16 "0x" (← integerOf v)).lay flags width flags.zero
  | 'X' =>
    let p ← whole 16 "0X" (← integerOf v)
    return ({ p with body := raised p.body } : Parts).lay flags width
      flags.zero
  | 'e' | 'f' | 'g' =>
    return (floatParts flags conversion precision (← floatOf v)).lay flags
      width flags.zero
  | 'E' | 'F' | 'G' =>
    let p := floatParts flags conversion.toLower precision (← floatOf v)
    return ({ p with body := raised p.body } : Parts).lay flags width
      flags.zero
  | _ => .error unsupported

-- ========================================================= arguments

/-- The arguments that are left: a row, or one value whose members go by name.
That value, or the member named last, may be pending. -/
inductive Arguments
  | row (values : List Value)
  | members (whole : Value) (pending : Option Value)

/-- The arguments in a row. A single one that is a map gives its members by
name. -/
def Arguments.ofRow : List Value → Arguments
  | [.map (m :: more)] => .members (.map (m :: more)) (some (.map (m :: more)))
  | values => .row values

/-- A value in place of the arguments. A map gives its members by name; a list
has members as well, although none that has a name. -/
def Arguments.ofValue : Value → Arguments
  | .map ms => .members (.map ms) (some (.map ms))
  | .list vs => .members (.list vs) (some (.list vs))
  | v => .row [v]

/-- The next argument and those after it. -/
def Arguments.next : Arguments → Except Fault (Value × Arguments)
  | .row (v :: rest) => .ok (v, .row rest)
  | .members whole (some v) => .ok (v, .members whole none)
  | _ => .error .notEnough

/-- The arguments with the value under a key pending. -/
def Arguments.named (key : String) : Arguments → Except Fault Arguments
  | .members (.map ms) _ =>
    match ms.lookup key with
    | some v => .ok (.members (.map ms) (some v))
    | none => .error (.missing key)
  | .members _ _ => .error .wrongKind
  | .row _ => .error .notAMap

/-- A whole number out of the arguments, for a width or a precision. -/
def Arguments.nextNumber (args : Arguments) :
    Except Fault (Int × Arguments) := do
  let (v, rest) ← args.next
  match v with
  | .int n => return (n, rest)
  | .bool b => return (if b then 1 else 0, rest)
  | _ => .error .wrongKind

-- =========================================================== reading

/-- A key up to its closing parenthesis, where parentheses within are
counted. -/
def keyFrom (depth : Nat) (key : List Char) :
    List Char → Except Fault (String × List Char)
  | [] => .error .incompleteKey
  | c :: rest =>
    if c = ')' then
      if depth = 0 then .ok (.ofList key.reverse, rest)
      else keyFrom (depth - 1) (c :: key) rest
    else keyFrom (if c = '(' then depth + 1 else depth) (c :: key) rest

/-- The flags at the front of a directive, and the rest of it. -/
def flagsFrom (flags : Flags) : List Char → Flags × List Char
  | c :: rest =>
    match c with
    | '-' => flagsFrom { flags with left := true } rest
    | '+' => flagsFrom { flags with plus := true } rest
    | ' ' => flagsFrom { flags with blank := true } rest
    | '#' => flagsFrom { flags with alternate := true } rest
    | '0' => flagsFrom { flags with zero := true } rest
    | _ => (flags, c :: rest)
  | [] => (flags, [])

/-- A number at the front: digits, or an argument in place of them. It must lie
within `bits` bits; the two faults are for an argument and for digits that do
not. -/
def numberFrom (bits : Nat) (argument literal : Fault) (args : Arguments)
    (text : List Char) :
    Except Fault (Int × Arguments × List Char) := do
  match text with
  | '*' :: rest =>
    let (n, args) ← args.nextNumber
    if n < -(twoTo bits : Int) ∨ twoTo bits ≤ n then .error argument
    else return (n, args, rest)
  | _ =>
    let n := Binary64.digitsValue (text.takeWhile Char.isDigit)
    if twoTo bits ≤ n then .error literal
    else return (n, args, text.dropWhile Char.isDigit)

/-- The key at the front of a directive, if there is one: its value goes
next. -/
def namedFrom (args : Arguments) (text : List Char) :
    Except Fault (Arguments × List Char) := do
  match args, text with
  | .row _, '(' :: _ => .error .notAMap
  | _, '(' :: rest =>
    let (key, rest) ← keyFrom 0 [] rest
    let args ← args.named key
    return (args, rest)
  | _, _ => return (args, text)

/-- The precision at the front, if there is one; one below zero counts as
zero. -/
def precisionFrom (args : Arguments) (text : List Char) :
    Except Fault (Option Nat × Arguments × List Char) := do
  match text with
  | '.' :: rest =>
    let (n, args, rest) ←
      numberFrom 31 .preciseArgument .preciseLiteral args rest
    return (some n.toNat, args, rest)
  | _ => return (none, args, text)

/-- A directive after its percent sign, shown, with the arguments and the text
that remain. `length` counts the code points of the whole message, which places
the conversion. A second percent sign right after the first is no directive and
stands for itself, which is for the caller. -/
def directive (length : Nat) (args : Arguments) (text : List Char) :
    Except Fault (String × Arguments × List Char) := do
  let (args, text) ← namedFrom args text
  let (flags, text) := flagsFrom {} text
  let (width, args, text) ← numberFrom 63 .wideArgument .wideLiteral args text
  let flags := if width < 0 then { flags with left := true } else flags
  let (precision, args, text) ← precisionFrom args text
  let text := match text with
    | c :: rest => if c = 'h' ∨ c = 'l' ∨ c = 'L' then rest else text
    | [] => []
  match text with
  | [] => .error .incomplete
  | c :: rest =>
    let (v, args) ← args.next
    let ahead := Text.points (c :: rest)
    let unsupported :=
      Fault.unsupported (ahead.headD 0) (length - ahead.length)
    return (← layConverted flags width.natAbs precision c unsupported v, args,
      rest)

/-- A message with its directives carried out; every directive takes at least
one character, so the length of the message is fuel enough. -/
def formatFrom (length : Nat) :
    Nat → Arguments → List Char → Except Fault (List Char)
  | 0, _, _ => .ok []
  | _ + 1, .row (_ :: _), [] => .error .leftOver
  | _ + 1, _, [] => .ok []
  | fuel + 1, args, '%' :: '%' :: rest =>
    return '%' :: (← formatFrom length fuel args rest)
  | fuel + 1, args, c :: rest =>
    if c = '%' then do
      let (shown, args, rest) ← directive length args rest
      return shown.toList ++ (← formatFrom length fuel args rest)
    else return c :: (← formatFrom length fuel args rest)

/-- A message with its directives carried out. -/
def format (message : String) (arguments : Arguments) : Except Fault String :=
  let text := message.toList
  .ofList <$> formatFrom (Text.size text) (text.length + 1) arguments text

end Percent
end Colloquy
