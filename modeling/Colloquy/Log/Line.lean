/-
Log records as text, in two formats. The JSON format puts each record on one
line; the plain format puts the fields behind the first line of the message.

A record knows a number of parts by name. A field with the name of a part is no
field to be shown, and neither is one whose name starts with a low line; but a
part that the record is written with gives way to a field of its name. One
field takes the place of all parts at once, and then the record may lack some
of them.
-/
import Colloquy.Json.Writer
import Colloquy.Log
import Colloquy.Percent
import Colloquy.Text.Search
import Colloquy.Timestamp

namespace Colloquy.Log

-- =========================================================== records

/-- A record as a format takes it: a message with directives and their
arguments, the seconds at which it was made, and the seconds at which it is
written. One that is bare has no parts but its fields. -/
structure Record where
  source : String
  level : Int
  message : String
  arguments : List Value := []
  created : Timestamp.Count
  written : Timestamp.Count
  fields : List (String × Value) := []
  failure : Option String := none
  isBare : Bool := false

/-- The record of an entry. -/
def Entry.toRecord (now : Timestamp.Count) (e : Entry) : Record :=
  { source := e.source.name, level := e.level.number, message := e.message,
    created := now, written := now
    fields := e.fields, failure := e.failure }

/-- Why a record has no line. -/
inductive Fault
  | percent (fault : Percent.Fault)
  | time (fault : Timestamp.Fault)
  | wrongKind
  | noPart (name : String)
  | notWritable (name : String)
  | unnamed (name : String)
  | noException
  | noThirdMember
  | noThirdItem
  | noThirdCharacter

/-- The wording of a fault. -/
def Fault.message : Fault → String
  | .percent fault => fault.message
  | .time fault => fault.message
  | .wrongKind => "a part of the record is of another kind"
  | .noPart name => s!"the record has no part {name}"
  | .notWritable name => s!"the part {name} of a record cannot be written"
  | .unnamed name =>
    "Formatting field not found in record: " ++ Text.quoted name
  | .noException => "a part of the record is no exception"
  | .noThirdMember => "2"
  | .noThirdItem => "list index out of range"
  | .noThirdCharacter => "string index out of range"

/-- The name of the level with a number. -/
def levelName (level : Int) : String :=
  if level = 0 then "NOTSET"
  else if level = 10 then "DEBUG"
  else if level = 20 then "INFO"
  else if level = 30 then "WARNING"
  else if level = 40 then "ERROR"
  else if level = 50 then "CRITICAL"
  else "Level " ++ toString level

-- ============================================================ fields

/-- The parts of a record. -/
def reservedNames : List String := [
  "args", "asctime", "created", "exc_info", "exc_text", "filename", "funcName",
  "levelname", "levelno", "lineno", "module", "msecs", "message", "msg",
  "name", "pathname", "process", "processName", "relativeCreated",
  "stack_info", "taskName", "thread", "threadName"]

/-- Whether a field of that name is shown. -/
def isShown (name : String) : Bool :=
  !reservedNames.contains name && name.toList.head? ≠ some '_'

namespace Record

/-- The fields that are shown, in order. -/
def shownFields (r : Record) : List (String × Value) :=
  r.fields.filter fun field => isShown field.1

/-- The name of what a record is, which no value can say. -/
def kindName : String := "__class__"

/-- The name under which a record notes who looks at it, which nothing can be
written to. -/
def observersName : String := "__weakref__"

/-- The name of all parts of a record at once, which a map can take the place
of. -/
def partsName : String := "__dict__"

/-- The record with one more field; of two with one name, the later takes the
place of the other. -/
def addField (r : Record) (field : String × Value) : Except Fault Record :=
  let (name, v) := field
  if name = kindName then .error .wrongKind
  else if name = observersName then .error (.notWritable name)
  else if name = partsName then
    match v with
    | .map members => .ok { r with fields := members, isBare := true }
    | _ => .error .wrongKind
  else .ok { r with fields := putEntry name v r.fields }

/-- The record with its fields added one after another. -/
def withFields (r : Record) : Except Fault Record :=
  r.fields.foldlM addField { r with fields := [] }

/-- What a record has under a name: a field, or the part itself. -/
def part (r : Record) (name : String) (own : Value) : Except Fault Value :=
  match r.fields.lookup name with
  | some v => .ok v
  | none => if r.isBare then .error (.noPart name) else .ok own

/-- A part that is there, whatever it is. -/
def demand (r : Record) (name : String) : Except Fault Unit :=
  (fun _ => ()) <$> r.part name .null

/-- The arguments of the message, if there are any. -/
def arguments? (r : Record) : Except Fault (Option Percent.Arguments) := do
  r.demand "args"
  match r.fields.lookup "args" with
  | some v => return if v.saysNothing then none else some (.ofValue v)
  | none =>
    return if r.arguments.isEmpty then none else some (.ofRow r.arguments)

/-- The name of the operation by which a record puts its message together. A
field of this name takes its place, and a value cannot be carried out. -/
def operationName : String := "getMessage"

/-- The message with its directives carried out; a message without arguments
has none. -/
def messageText (r : Record) : Except Fault String := do
  if (r.fields.lookup operationName).isSome then throw .wrongKind
  let message := (← r.part "msg" (.string r.message)).text
  match ← r.arguments? with
  | none => return message
  | some arguments => (Percent.format message arguments).mapError .percent

/-- The seconds at which the record was made. -/
def seconds (r : Record) : Except Fault Timestamp.Count := do
  r.demand "created"
  match r.fields.lookup "created" with
  | none => return r.created
  | some (.float x) => return .real x
  | some (.int n) => return .whole n
  | some (.bool b) => return .whole (if b then 1 else 0)
  | some _ => throw .wrongKind

/-- The seconds that a record in plain text shows: those at which it is
written, if a field says that it was made at no time. -/
def secondsShown (r : Record) : Except Fault Timestamp.Count :=
  match r.fields.lookup "created" with
  | some .null => .ok r.written
  | _ => r.seconds

/-- The text of the failure, if there is one. A field in its place has to be a
row of three, of which the second is an exception and the third the place it
comes from; all that a field can give is that there is neither. -/
def failureText (r : Record) : Except Fault (Option String) := do
  r.demand "exc_info"
  match r.fields.lookup "exc_info" with
  | none => .ok r.failure
  | some v =>
    if v.saysNothing then .ok none
    else match v with
      | .list (_ :: .null :: .null :: _) => .ok (some "NoneType: None")
      | .list (_ :: _ :: _ :: _) => .error .noException
      | .list _ => .error .noThirdItem
      | .string text =>
        if Text.size text.toList < 3 then .error .noThirdCharacter
        else .error .noException
      | .map _ => .error .noThirdMember
      | _ => .error .wrongKind

/-- The name of the source, as a value. -/
def sourceValue (r : Record) : Except Fault Value :=
  r.part "name" (.string r.source)

/-- The name of the level, as a value. -/
def levelValue (r : Record) : Except Fault Value :=
  r.part "levelname" (.string (levelName r.level))

-- ============================================================== JSON

/-- A member that is there only if there is something to say. -/
def memberIf (name : String) (v : Option Value) : List (String × Value) :=
  v.toList.map fun v => (name, v)

/-- The record as one line of JSON. -/
def jsonLine (r : Record) : Except Fault String := do
  let moment ← (Timestamp.ofSeconds (← r.seconds)).mapError .time
  let timestamp ← moment.isoText.mapError .time
  let level ← r.levelValue
  let source ← r.sourceValue
  let message ← r.messageText
  let fields := r.shownFields
  let failure ← r.failureText
  return Json.write (.map (
    [("timestamp", .string timestamp), ("level", level), ("logger", source),
      ("message", .string message)]
    ++ memberIf "extra" (if fields.isEmpty then none else some (.map fields))
    ++ memberIf "exception" (failure.map .string)))

-- ============================================================= plain

/-- A text on a new line, after a line end if there is none yet. -/
def onNewLine (text more : String) : String :=
  (if text.toList.getLast? = some '\n' then text else text ++ "\n") ++ more

/-- A text with a part on a new line, if that part is there. -/
def appendPart (part : Option Value) (text : String) : Except Fault String :=
  match part with
  | none => .ok text
  | some (.string more) => .ok (onNewLine text more)
  | some _ => .error .wrongKind

/-- A field that says something. -/
def spokenField (r : Record) (name : String) : Option Value :=
  (r.fields.lookup name).filter fun v => !v.saysNothing

/-- The part that shows the failure: the failure itself is asked only if no
field has its text. -/
def failurePart (r : Record) : Except Fault (Option Value) := do
  r.demand "exc_info"
  r.demand "exc_text"
  match r.spokenField "exc_text" with
  | some v => return some v
  | none => return (← r.failureText).map .string

/-- The part that shows where the record comes from. -/
def placePart (r : Record) : Except Fault (Option Value) := do
  r.demand "stack_info"
  return r.spokenField "stack_info"

/-- What the first line of a record shows under a name. -/
def shownPart (name : String) : Except Fault Value → Except Fault Value
  | .error (.noPart _) => .error (.unnamed name)
  | found => found

/-- The fields in the order of their names, with their texts. -/
def fieldsText (fields : List (String × Value)) : String :=
  String.intercalate " "
    ((fields.mergeSort fun a b => a.1 ≤ b.1).map fun (name, v) =>
    name ++ "=" ++ v.text)

/-- A text with the fields in brackets behind its first line. -/
def insertFields (text : String) (fields : List (String × Value)) : String :=
  if fields.isEmpty then text
  else
    let (first, rest) := Text.cutAt '\n' text.toList
    String.ofList first ++ " [" ++ fieldsText fields ++ "]"
      ++ ((rest.map fun rest => "\n" ++ String.ofList rest).getD "")

/-- The record as plain text. -/
def plainLine (r : Record) : Except Fault String := do
  let message ← r.messageText
  let moment ← (Timestamp.ofSecondsDown (← r.secondsShown)).mapError .time
  let time ← moment.plainText.mapError .time
  let source ← shownPart "name" r.sourceValue
  let level ← shownPart "levelname" r.levelValue
  let head :=
    time ++ " - " ++ source.text ++ " - " ++ level.text ++ " - " ++ message
  let text ← appendPart (← r.failurePart) head
  let text ← appendPart (← r.placePart) text
  return insertFields text r.shownFields

end Record

-- =========================================================== formats

/-- The two formats. -/
inductive Format
  | json
  | plain
deriving DecidableEq, Repr

/-- The word for a format. -/
def Format.word : Format → String
  | .json => "json"
  | .plain => "text"

/-- Every format. -/
def Format.all : List Format := [.json, .plain]

/-- The format that a word asks for: every word but one asks for the plain
one. -/
def Format.ofWord (word : String) : Format :=
  if word = Format.json.word then .json else .plain

/-- A record in a format. -/
def Format.line (format : Format) (r : Record) : Except Fault String := do
  let r ← r.withFields
  match format with
  | .json => r.jsonLine
  | .plain => r.plainLine

end Colloquy.Log
