/-
Variable files. A file holds one statement after another: a name with a value,
a name alone, or a comment. A value may stand between quotes, where it may run
over several lines and hold escapes; without quotes it ends with its line or
with a comment. A statement that cannot be read is passed over up to the end of
its line. A byte order mark in front of everything is passed over.

A reference in a value is replaced by what the statements before it make of the
name, or else by what the environment makes of it.
-/
import Colloquy.Catalog
import Colloquy.Environment
import Colloquy.Text.Blank

namespace Colloquy

namespace VariableFile

-- ======================================================== statements

/-- A statement: a name, with a value or alone; nothing; or something that
cannot be read. -/
inductive Statement
  | binding (name : String) (value : Option String)
  | nothing
  | unreadable
deriving DecidableEq, Repr

/-- Whether `c` is blank and does not end a line. -/
def isSpace (c : Char) : Bool := Text.isBlank c && c ≠ '\n' && c ≠ '\r'

/-- Whether `c` stays on its line. -/
def staysOnLine (c : Char) : Bool := c ≠ '\n' && c ≠ '\r'

/-- The text after an `export` and the spaces behind it, if it starts with
that. -/
def afterExport (text : List Char) : List Char :=
  let word := "export".toList
  let rest := text.drop word.length
  if word.isPrefixOf text && (rest.head?.map isSpace).getD false then
    rest.dropWhile isSpace
  else text

/-- The name at the front: between single quotes, or up to a blank, an equals
sign or a number sign. -/
def name? (text : List Char) : Option (String × List Char) :=
  match text with
  | '\x27' :: rest =>
    let name := rest.takeWhile (· ≠ '\x27')
    match rest.drop name.length with
    | _ :: rest => if name.isEmpty then none else some (.ofList name, rest)
    | [] => none
  | _ =>
    let name := text.takeWhile fun c => !(c = '=' || c = '#' || Text.isBlank c)
    if name.isEmpty then none else some (.ofList name, text.drop name.length)

-- ============================================================ values

/-- Where a quoted text ends, counted from `place`: at the first quote that no
backslash takes along. A backslash takes along the character after it,
whichever that is. -/
def closingFrom (quote : Char) (place : Nat) : List Char → Option Nat
  | [] => none
  | '\\' :: _ :: rest => closingFrom quote (place + 2) rest
  | c :: rest =>
    if c = quote then some place else closingFrom quote (place + 1) rest

/-- A text with its escapes carried out: a backslash before one of `letters`
stands for what that letter means. -/
def unescape (letters : List (Char × Char)) : List Char → List Char
  | '\\' :: c :: rest =>
    match letters.lookup c with
    | some meant => meant :: unescape letters rest
    | none => '\\' :: unescape letters (c :: rest)
  | c :: rest => c :: unescape letters rest
  | [] => []

/-- The escapes between single quotes. -/
def singleEscapes : List (Char × Char) := [('\\', '\\'), ('\x27', '\x27')]

/-- The escapes between double quotes. -/
def doubleEscapes : List (Char × Char) :=
  singleEscapes
    ++ [('\x22', '\x22'), ('a', '\x07'), ('b', '\x08'), ('f', '\x0c'),
      ('n', '\n'), ('r', '\r'), ('t', '\t'), ('v', '\x0b')]

/-- A quoted value, read after its opening quote. -/
def quoted? (quote : Char) (escapes : List (Char × Char)) (text : List Char) :
    Option (String × List Char) :=
  (closingFrom quote 0 text).map fun place =>
    (.ofList (unescape escapes (text.take place)), text.drop (place + 1))

/-- What stands before a comment: a number sign after a blank. -/
def beforeComment (blankBefore : Bool) : List Char → List Char
  | [] => []
  | c :: rest =>
    if c = '#' && blankBefore then []
    else c :: beforeComment (Text.isBlank c) rest

/-- The text without the blanks at its end. -/
def trimEnd (text : List Char) : List Char :=
  (text.reverse.dropWhile Text.isBlank).reverse

/-- The value at the front, after a blank or not. -/
def value? (blankBefore : Bool) (text : List Char) :
    Option (String × List Char) :=
  match text with
  | '\x27' :: rest => quoted? '\x27' singleEscapes rest
  | '\x22' :: rest => quoted? '\x22' doubleEscapes rest
  | _ =>
    let line := text.takeWhile staysOnLine
    some (.ofList (trimEnd (beforeComment blankBefore line)),
      text.drop line.length)

-- =========================================================== reading

/-- The text after its line. -/
def afterLine (text : List Char) : List Char :=
  match text.dropWhile staysOnLine with
  | '\r' :: '\n' :: rest => rest
  | _ :: rest => rest
  | [] => []

/-- The text after a statement, if nothing but a comment stands between it and
the end of its line. -/
def afterStatement? (text : List Char) : Option (List Char) :=
  let uncommented := match text.dropWhile isSpace with
    | '#' :: rest => rest.dropWhile staysOnLine
    | _ => text
  match uncommented.dropWhile isSpace with
  | [] => some []
  | c :: rest => if staysOnLine c then none else some (afterLine (c :: rest))

/-- A statement that has been read up to `text`, and what follows it. -/
def finish (statement : Statement) (text : List Char) :
    Statement × List Char :=
  match afterStatement? text with
  | some rest => (statement, rest)
  | none => (.unreadable, afterLine text)

/-- The statement at the front, and what follows it. -/
def statement (text : List Char) : Statement × List Char :=
  let text := text.dropWhile Text.isBlank
  if text.isEmpty then (.nothing, [])
  else
    let text := afterExport text
    if text.head? = some '#' then finish .nothing text
    else match name? text with
      | none => (.unreadable, afterLine text)
      | some (name, rest) =>
        match rest.dropWhile isSpace with
        | '=' :: rest =>
          let blankBefore := (rest.head?.map isSpace).getD false
          let rest := rest.dropWhile isSpace
          match value? blankBefore rest with
          | none => (.unreadable, afterLine rest)
          | some (value, rest) => finish (.binding name (some value)) rest
        | rest => finish (.binding name none) rest

/-- The statements of a text, each with the number of the line it starts after.
Every statement takes at least one character. -/
def statementsFrom : Nat → Nat → List Char → List (Nat × Statement)
  | 0, _, _ => []
  | _ + 1, _, [] => []
  | fuel + 1, line, text =>
    let (s, rest) := statement text
    let taken := text.take (text.length - rest.length)
    (line, s) :: statementsFrom fuel (line + taken.count '\n') rest

/-- A text without a byte order mark in front. -/
def withoutMark : List Char → List Char
  | '\ufeff' :: rest => rest
  | text => text

/-- The statements of a text, each with the line on which what leads to it
starts. -/
def statements (text : List Char) : List (Nat × Statement) :=
  let text := withoutMark text
  statementsFrom text.length 1 text

-- ======================================================== references

/-- A reference at the front, after its dollar sign: the name, what stands in
for it, and the number of characters it takes. -/
def reference? (text : List Char) : Option (String × String × Nat) :=
  match text with
  | '\x7b' :: rest =>
    let name := rest.takeWhile fun c => c ≠ '\x7d' && c ≠ ':'
    match rest.drop name.length with
    | '\x7d' :: _ => some (.ofList name, "", name.length + 2)
    | ':' :: '-' :: rest =>
      let default := rest.takeWhile (· ≠ '\x7d')
      if default.length < rest.length then
        some (.ofList name, .ofList default, name.length + default.length + 4)
      else none
    | _ => none
  | _ => none

/-- A value after its first `skip` characters, with its references replaced. -/
def expandAfter (get : String → Option String) : Nat → List Char → List Char
  | _, [] => []
  | skip + 1, _ :: rest => expandAfter get skip rest
  | 0, c :: rest =>
    match if c = '$' then reference? rest else none with
    | some (name, default, length) =>
      ((get name).getD default).toList ++ expandAfter get length rest
    | none => c :: expandAfter get 0 rest

/-- What a name stands for: what the statements before make of it, or else the
environment. A name that stood alone stands for nothing. -/
def lookup (env : Environment) (known : List (String × Option String))
    (name : String) : Option String :=
  match known.lookup name with
  | some value => some (value.getD "")
  | none => env.get? name

/-- The variables of statements in order, with their references replaced. -/
def resolve (env : Environment) (known : List (String × Option String)) :
    List (Nat × Statement) → List (String × Option String)
  | [] => known
  | (_, .binding name value) :: rest =>
    let value :=
      value.map fun v => .ofList (expandAfter (lookup env known) 0 v.toList)
    resolve env (putEntry name value known) rest
  | _ :: rest => resolve env known rest

/-- The variables of a file; one that stands alone has no value. -/
def bindings (env : Environment) (text : List Char) :
    List (String × Option String) :=
  resolve env [] (statements text)

/-- The lines on which statements start that cannot be read. -/
def unreadableLines (text : List Char) : List Nat :=
  (statements text).filterMap fun (line, s) =>
    if s = .unreadable then some line else none

end VariableFile
end Colloquy
