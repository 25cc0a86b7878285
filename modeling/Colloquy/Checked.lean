/-
Checking data that comes from outside. A check does not stop at the first thing
that is wrong: it gathers an issue for each, in the order of the fields, and
every issue names its place.

The report of a refusal counts the issues and gives each with its place, its
wording and its code.
-/
import Colloquy.Value

namespace Colloquy

universe u v

-- ============================================================ issues

/-- What is wrong at one place. -/
inductive Issue.Cause
  | missing
  | notText
  | illFormedText
  | notList
  | notMap
  | notRecord (title : String)
  | notWhole
  | unreadableWhole
  | fractional
  | oversized
  | notFinite
  | belowZero
  | notChoice (choices : List String)
  | notTruth
  | unreadableTruth
  | notPath
  | refused (message : String)
deriving DecidableEq, Repr

/-- Alternatives as a phrase: quoted, with `or` before the last. -/
def choicePhrase : List String → String
  | [] => ""
  | [a] => Text.quoted a
  | [a, b] => Text.quoted a ++ " or " ++ Text.quoted b
  | a :: rest => Text.quoted a ++ ", " ++ choicePhrase rest

/-- The wording of a cause. -/
def Issue.Cause.message : Issue.Cause → String
  | .missing => "Field required"
  | .notText => "Input should be a valid string"
  | .illFormedText =>
    "Input should be a valid string, unable to parse raw data as a "
      ++ "unicode string"
  | .notList => "Input should be a valid list"
  | .notMap => "Input should be a valid dictionary"
  | .notRecord title =>
    "Input should be a valid dictionary or instance of " ++ title
  | .notWhole => "Input should be a valid integer"
  | .unreadableWhole =>
    "Input should be a valid integer, unable to parse string as an integer"
  | .fractional =>
    "Input should be a valid integer, got a number with a fractional part"
  | .oversized =>
    "Unable to parse input string as an integer, exceeded maximum size"
  | .notFinite => "Input should be a finite number"
  | .belowZero => "Input should be greater than or equal to 0"
  | .notChoice choices => "Input should be " ++ choicePhrase choices
  | .notTruth => "Input should be a valid boolean"
  | .unreadableTruth =>
    "Input should be a valid boolean, unable to interpret input"
  | .notPath => "Input is not a valid path for <class 'pathlib.Path'>"
  | .refused message => "Value error, " ++ message

/-- The code of a cause. -/
def Issue.Cause.code : Issue.Cause → String
  | .missing => "missing"
  | .notText => "string_type"
  | .illFormedText => "string_unicode"
  | .notList => "list_type"
  | .notMap => "dict_type"
  | .notRecord _ => "model_type"
  | .notWhole => "int_type"
  | .unreadableWhole => "int_parsing"
  | .fractional => "int_from_float"
  | .oversized => "int_parsing_size"
  | .notFinite => "finite_number"
  | .belowZero => "greater_than_equal"
  | .notChoice _ => "literal_error"
  | .notTruth => "bool_type"
  | .unreadableTruth => "bool_parsing"
  | .notPath => "path_type"
  | .refused _ => "value_error"

/-- Something wrong, and where: the names and positions that lead there. -/
structure Issue where
  place : List String := []
  cause : Issue.Cause
deriving DecidableEq, Repr

namespace Issue

/-- One step of a place. A step that holds a dot is set off by backticks, given
here by their code. -/
def stepText (step : String) : String :=
  let tick := String.singleton (Char.ofNat 0x60)
  let shown := String.ofList (Text.replaceHalves step.toList)
  if step.toList.contains '.' then tick ++ shown ++ tick else shown

/-- The lines that report an issue. What is wrong with the whole has no place
to name. -/
def lines (issue : Issue) : List String :=
  (if issue.place.isEmpty then []
    else [String.intercalate "." (issue.place.map stepText)])
    ++ ["  " ++ issue.cause.message ++ " [type=" ++ issue.cause.code ++ "]"]

end Issue

-- ============================================================ checks

/-- What comes of a check: a result, or everything that is wrong. -/
inductive Checked (α : Type u)
  | accepted (result : α)
  | refused (issues : List Issue)

namespace Checked

/-- Two checks are both made, whatever comes of the first, and their issues
come in order. -/
instance : Applicative Checked where
  pure := .accepted
  seq f a :=
    match f, a () with
    | .accepted f, .accepted a => .accepted (f a)
    | .accepted _, .refused issues => .refused issues
    | .refused issues, .accepted _ => .refused issues
    | .refused first, .refused second => .refused (first ++ second)

/-- One thing is wrong, here. -/
def issue {α : Type u} (cause : Issue.Cause) : Checked α :=
  .refused [{ cause }]

/-- The same check, made at the place to which `step` leads. -/
def below {α : Type u} (step : String) : Checked α → Checked α
  | .accepted a => .accepted a
  | .refused issues =>
    .refused (issues.map fun issue =>
      { issue with place := step :: issue.place })

/-- A further check of the result, if there is one. -/
def andThen {α : Type u} {β : Type v} (c : Checked α) (next : α → Checked β) :
    Checked β :=
  match c with
  | .accepted a => next a
  | .refused issues => .refused issues

end Checked

-- ========================================================== refusals

/-- A refusal of the whole: what was being checked, and everything that is
wrong with it. -/
structure Refusal where
  title : String
  issues : List Issue
deriving DecidableEq, Repr

/-- The report of a refusal. -/
def Refusal.message (r : Refusal) : String :=
  let plural := if r.issues.length = 1 then "" else "s"
  String.intercalate "\n"
    (s!"{r.issues.length} validation error{plural} for {r.title}"
      :: r.issues.flatMap Issue.lines)

/-- The result of a check of `title`, or the refusal. -/
def Checked.toExcept {α : Type u} (title : String) :
    Checked α → Except Refusal α
  | .accepted a => .ok a
  | .refused issues => .error { title, issues }

-- ============================================================ fields

/-- A member of a record: the name it goes by in writing, and another by which
it may be given. -/
structure Field where
  wire : String
  plain : String
deriving DecidableEq, Repr

namespace Field

/-- A field with one name. -/
def named (name : String) : Field := ⟨name, name⟩

/-- The member of that field, with the name it was given by; the name in
writing goes first. -/
def find? (f : Field) (members : List (String × Value)) :
    Option (String × Value) :=
  match members.lookup f.wire with
  | some v => some (f.wire, v)
  | none => (members.lookup f.plain).map fun v => (f.plain, v)

/-- A member that must be there. -/
def required {α : Type u} (f : Field) (check : Value → Checked α)
    (members : List (String × Value)) :
    Checked α :=
  match f.find? members with
  | some (name, v) => (check v).below name
  | none => (Checked.issue .missing).below f.wire

/-- A member that may be left out. -/
def optional {α : Type u} (f : Field) (default : α) (check : Value → Checked α)
    (members : List (String × Value)) : Checked α :=
  match f.find? members with
  | some (name, v) => (check v).below name
  | none => .accepted default

end Field

namespace Checked

/-- A text. -/
def text : Value → Checked String
  | .string s => .accepted s
  | _ => issue .notText

/-- A text from which something is read, and which has to be encoded for
that. -/
def encoded {α : Type u} (check : String → Checked α) (text : String) :
    Checked α :=
  if Text.isWellFormed text.toList then check text else issue .illFormedText

/-- Null, or what another check accepts. -/
def nullable {α : Type u} (check : Value → Checked α) :
    Value → Checked (Option α)
  | .null => .accepted none
  | v => some <$> check v

/-- The members of a record. -/
def members (title : String) : Value → Checked (List (String × Value))
  | .map members => .accepted members
  | _ => issue (.notRecord title)

/-- Every member checked in turn, each under its own name. -/
def each {α : Type u} (check : Value → Checked α) :
    List (String × Value) → Checked (List (String × α))
  | [] => .accepted []
  | (name, v) :: rest =>
    (fun a more => (name, a) :: more)
      <$> (check v).below name <*> each check rest

/-- A map from names to what `check` accepts. -/
def catalog {α : Type u} (check : Value → Checked α) :
    Value → Checked (Catalog α)
  | .map members => Catalog.ofList <$> each check members
  | _ => issue .notMap

/-- A list of what `check` accepts; a place in it is named by its position. -/
def list {α : Type u} (check : Value → Checked α) : Value → Checked (List α)
  | .list items =>
    (List.map Prod.snd)
      <$> each check (items.zipIdx.map fun (v, i) => (toString i, v))
  | _ => issue .notList

end Checked
end Colloquy
