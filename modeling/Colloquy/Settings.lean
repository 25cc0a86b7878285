/-
Settings: how the log is written, and which definitions are loaded at the
start.

A setting is asked for by an argument, or given outright, or found by some
other source. Arguments count first, and what is given outright counts next.
The other sources come in an order; a field goes by two names, and the wire
name counts in every source before the plain one counts in any.

A report names a setting by the name it was found under. What was given
outright is reported by the name that it was given under, if that is a name of
the field, and otherwise by the wire name, for there case does not matter.

Settings are checked as a whole: a refusal names everything that is wrong.
-/
import Colloquy.Batch
import Colloquy.Builtins
import Colloquy.Log.Setup
import Colloquy.Settings.Search

namespace Colloquy

/-- Settings, with what holds where nothing is said. -/
structure Settings where
  level : Log.Level := .info
  format : Log.Format := .json
  definitions : Option Path := none
  loadsBuiltins : Bool := true
deriving DecidableEq, Repr

namespace Settings

/-- How reports name the settings. -/
def title : String := "EngineSettings"

-- =========================================================== sources

/-- Where settings come from. Of the layers, one in front counts before those
behind it. -/
structure Sources where
  arguments : Layer := []
  given : List (String × Value) := []
  layers : List Layer := []

/-- The first value that was given outright under a name, case aside. -/
def Sources.givenUnder? (s : Sources) (name : String) : Option Value :=
  (s.given.find? fun member =>
    Environment.fold member.1 = Environment.fold name).map (·.2)

/-- What was given outright for a field, with the name that it is reported
by. -/
def Sources.given? (s : Sources) (f : Field) : Option (String × Value) :=
  let name :=
    ([f.wire, f.plain].find? fun name => (s.given.lookup name).isSome).getD
      f.wire
  ((s.givenUnder? f.wire).or (s.givenUnder? f.plain)).map fun v => (name, v)

/-- What the layers have for a field, with the name that it was found under. -/
def Sources.found? (s : Sources) (f : Field) : Option (String × Value) :=
  [f.wire, f.plain].findSome? fun name =>
    (s.layers.findSome? fun layer => layer.lookup name).map fun v => (name, v)

/-- A setting with the name that it is reported by. -/
def Sources.find? (s : Sources) (f : Field) : Option (String × Value) :=
  match s.arguments.lookup f.wire, s.given? f with
  | some v, some (name, _) => some (name, v)
  | some v, none => some (f.wire, v)
  | none, some member => some member
  | none, none => s.found? f

/-- The settings that are said, each with the name that it is reported by. -/
def Sources.members (s : Sources) : List (String × Value) :=
  fields.filterMap s.find?

-- ============================================================ checks

/-- A level of the log. Neither case nor blanks around it matter. -/
def checkLevel (v : Value) : Checked Log.Level :=
  (Checked.text v).andThen fun text =>
    match Log.Level.ofName? (Log.upperName (Text.trim text)) with
    | some level => .accepted level
    | none => .issue (.refused ("Unknown log level: " ++ Text.quoted text))

/-- A format of the log, by its word. -/
def checkFormat (v : Value) : Checked Log.Format :=
  let read (word : String) : Checked Log.Format :=
    match Log.Format.all.find? fun format => format.word = word with
    | some format => .accepted format
    | none => .issue (.notChoice (Log.Format.all.map Log.Format.word))
  match v with
  | .string word => Checked.encoded read word
  | _ => .issue (.notChoice (Log.Format.all.map Log.Format.word))

/-- A path, or a text that spells one. -/
def checkPath : Value → Checked Path
  | .string text => .accepted (.ofText text)
  | .path path => .accepted path
  | _ => .issue .notPath

/-- The words for truth values, in lower case. -/
def truthWords : List (String × Bool) := [
  ("0", false), ("f", false), ("n", false), ("no", false), ("off", false),
  ("false", false), ("1", true), ("t", true), ("y", true), ("on", true),
  ("yes", true), ("true", true)]

/-- A truth value as a whole number. One that does not fit 64 bits is taken for
no truth value at all. -/
def truthOfWhole (n : Int) : Checked Bool :=
  if n = 0 then .accepted false
  else if n = 1 then .accepted true
  else if -(twoTo 63 : Int) ≤ n ∧ n < twoTo 63 then .issue .unreadableTruth
  else .issue .notTruth

/-- A truth value by its word, in any case of the plain letters. -/
def truthOfWord (text : String) : Checked Bool :=
  match truthWords.lookup (.ofList (text.toList.map Char.toLower)) with
  | some b => .accepted b
  | none => .issue .unreadableTruth

/-- A truth value, also as a word or as a whole number. -/
def checkTruth : Value → Checked Bool
  | .bool b => .accepted b
  | .string text => Checked.encoded truthOfWord text
  | .int n => truthOfWhole n
  | .float x =>
    match x.toInt? with
    | some n =>
      if n = -(twoTo 63 : Int) then .issue .notTruth else truthOfWhole n
    | none => .issue .notTruth
  | _ => .issue .notTruth

/-- The settings that sources make up. -/
def read (s : Sources) : Except Refusal Settings :=
  let members := s.members
  let checked : Checked Settings := Settings.mk
    <$> levelField.optional .info checkLevel members
    <*> formatField.optional .json checkFormat members
    <*> definitionsField.optional none (Checked.nullable checkPath) members
    <*> builtinsField.optional true checkTruth members
  checked.toExcept title

-- ============================================================= start

/-- What came of a start: what was noted down, and the registry or why there is
none. -/
structure Start where
  entries : List Log.Entry
  registry : Except LoadFault Registry

/-- The entry for a registry that is ready. -/
def readyEntry (r : Registry) : Log.Entry :=
  { level := .info, source := .settings, message := "Workflow engine ready"
    fields := [("workflow_ids", .list (r.ids.map .string))] }

/-- The registry that settings ask for: the packaged definitions first, then
the file. -/
def start (s : Settings) (disk : Disk) : Start :=
  let builtins : Registry.Loaded :=
    if s.loadsBuiltins then Registry.take {} Builtins.all
    else { registry := {}, ids := [], entries := [] }
  let loaded : Except LoadFault Registry.Loaded := match s.definitions with
    | none => .ok { builtins with entries := [] }
    | some path => builtins.registry.loadFile disk path
  match loaded with
  | .error fault => { entries := builtins.entries, registry := .error fault }
  | .ok loaded =>
    { entries := builtins.entries ++ loaded.entries
      ++ [readyEntry loaded.registry]
      registry := .ok loaded.registry }

end Settings
end Colloquy
