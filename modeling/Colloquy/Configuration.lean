/-
Where a program finds its settings: among what is given outright, in arguments,
in the environment, in variable files and in a directory of secrets. Keywords
among what is given say where to look and how.

Variable files are read first, one after another, and then the arguments. After
that the sources are asked for every field in turn, those that count first in
front. The first fault ends the search. What cannot be understood in a variable
file is told and passed over.
-/
import Colloquy.Console
import Colloquy.Settings.Arguments
import Colloquy.Text.Identifier
import Colloquy.VariableFile

namespace Colloquy

-- ========================================================== keywords

namespace Keyword

/-- Whether case matters in names. -/
def isExact : String := "_case_sensitive"

/-- What stands before the names of variables. -/
def lead : String := "_env_prefix"

/-- Which names of variables it stands before. -/
def leadTarget : String := "_env_prefix_target"

/-- Whether an empty variable is passed over. -/
def skipsEmpty : String := "_env_ignore_empty"

/-- The text that stands for null. -/
def nullText : String := "_env_parse_none_str"

/-- How often the names of variables are split; no field has parts. -/
def maxSplit : String := "_env_nested_max_split"

/-- The variable files. -/
def files : String := "_env_file"

/-- The encoding of the variable files. -/
def encoding : String := "_env_file_encoding"

/-- The directories of secrets. -/
def secrets : String := "_secrets_dir"

/-- The arguments. -/
def arguments : String := "_cli_parse_args"

/-- What stands before the fields in switches. -/
def switchLead : String := "_cli_prefix"

/-- Whether dashes stand for the low lines in switches. -/
def isDashed : String := "_cli_kebab_case"

/-- The shortcuts for names in switches. -/
def shortcuts : String := "_cli_shortcuts"

/-- How the switches for a truth value look. -/
def truthForm : String := "_cli_implicit_flags"

/-- The dashes of switches. -/
def dashes : String := "_cli_flag_prefix_char"

/-- Whether help leaves out that a field may be null. -/
def hidesNull : String := "_cli_hide_none_type"

/-- Sources already made, with what is given beside them. -/
def sources : String := "_build_sources"

/-- The name of the settings themselves, under which nothing can be given. -/
def itself : String := "__pydantic_self__"

/-- The text that stands for null among arguments. -/
def argumentNullText : String := "_cli_parse_none_str"

/-- Whether values among arguments are no JSON text. -/
def avoidsJson : String := "_cli_avoid_json"

/-- Whether arguments that are not known are passed over. -/
def passesOver : String := "_cli_ignore_unknown_args"

/-- Whether wrong arguments stop the program. -/
def stops : String := "_cli_exit_on_error"

end Keyword

namespace Program

/-- What is given under a keyword. Null says as little as nothing. -/
def keyword? (given : List (String × Value)) (name : String) : Option Value :=
  match given.lookup name with
  | some .null => none
  | found => found

/-- Whether what is given under a keyword says something. -/
def isOn (given : List (String × Value)) (name : String) : Bool :=
  (keyword? given name).any fun v => !v.saysNothing

/-- Whether a value is just that truth value. -/
def isTruth (b : Bool) : Value → Bool
  | .bool c => b = c
  | _ => false

/-- The text that is given under a keyword. -/
def keywordText? (given : List (String × Value)) (name : String) :
    Option String :=
  match keyword? given name with
  | some (.string text) => some text
  | _ => none

-- ============================================================= paths

/-- A path with the home that it starts in, if it says that it does. -/
def expanded (path : Path) : Program Path := do
  match path.root.isEmpty, path.names.head?.map String.toList with
  | true, some ('~' :: user) =>
    match Disk.pathFault? (.ofList user) with
    | some fault => throw (.unread (.path fault))
    | none => pure ()
  | _, _ => pure ()
  match path.withHome? (← get).environment.homeOf with
  | some path => return path
  | none => throw .noHome

/-- The path that a value names. -/
def pathOf : Value → Program Path
  | .string text => expanded (.ofText text)
  | .path path => expanded path
  | _ => throw .notPath

/-- The values of which each names a path: a text or a path does so by
itself. -/
def pathItems : Value → Program (List Value)
  | .list items => return items
  | .map members => return members.map fun member => .string member.1
  | .string text => return [.string text]
  | .path path => return [.path path]
  | _ => throw .notPath

/-- What stands at a path, if anything does. -/
def entryAt (path : Path) : Program (Option Disk.Entry) := do
  match (← get).disk.entry? path with
  | .ok entry => return entry
  | .error fault => throw (.unread fault)

-- ===================================================== variable files

/-- Where the variable file is looked for. -/
def variableFilePath : Path := .ofText ".env"

/-- The values that name variable files. The empty path names the usual one,
and so does nothing; null names none. -/
def variableFileItems (given : List (String × Value)) : Program (List Value) :=
  match given.lookup Keyword.files with
  | none => return [.path variableFilePath]
  | some .null => return []
  | some (.path path) =>
    return [.path (if path = .ofText "" then variableFilePath else path)]
  | some v => pathItems v

/-- The encoding of the variable files. -/
def variableFileEncoding (given : List (String × Value)) :
    Program Text.Encoding :=
  match keyword? given Keyword.encoding with
  | none => return .utf8
  | some (.string name) =>
    if name.toList.contains '\x00' then throw .nullInEncoding
    else match Text.Encoding.ofName name with
      | .ok encoding => return encoding
      | .error fault => throw (.encoding fault)
  | some _ => throw .notText

/-- The complaint about a statement that cannot be read. -/
def unreadableComplaint (line : Nat) : String :=
  s!"python-dotenv could not parse statement starting at line {line}"

/-- The variables of the file that a value names; what is no file has none. -/
def variablesOf (given : List (String × Value)) (item : Value) :
    Program Settings.Variables := do
  match ← entryAt (← pathOf item) with
  | some (.file bytes) => do
    match Disk.textOf (← variableFileEncoding given) bytes with
    | .error fault => throw (.unread fault)
    | .ok text => do
      (VariableFile.unreadableLines text).forM fun line =>
        complain (unreadableComplaint line)
      return VariableFile.bindings (← get).environment text
  | _ => return []

-- ============================================================= search

/-- Which names a lead stands before: the wire names, and the plain ones. -/
def leadTargets (given : List (String × Value)) : Bool × Bool :=
  match keyword? given Keyword.leadTarget with
  | none | some (.string "variable") => (false, true)
  | some (.string "alias") => (true, false)
  | some (.string "all") => (true, true)
  | some _ => (false, false)

/-- How variables are looked for. What has no length can be no lead, and what
is no number can be no count of splits. -/
def search (given : List (String × Value)) : Program Settings.Search := do
  let lead ← match keyword? given Keyword.lead with
    | some (.string text) => pure text
    | none | some (.list _) | some (.map _) => pure ""
    | some _ => throw .notText
  match keyword? given Keyword.maxSplit with
  | some (.path _) => throw .notText
  | some (.string text) => if !text.isEmpty then throw .notText
  | some (.list items) => if !items.isEmpty then throw .notText
  | some (.map members) => if !members.isEmpty then throw .notText
  | _ => pure ()
  let (leadsWire, leadsPlain) := leadTargets given
  return {
    isExact := isOn given Keyword.isExact
    lead, leadsWire, leadsPlain
    skipsEmpty := isOn given Keyword.skipsEmpty
    nullText := keywordText? given Keyword.nullText }

/-- A lead has to be a text where it is to stand before a name. -/
def demandLead (given : List (String × Value)) (s : Settings.Search) :
    Program Unit :=
  match keyword? given Keyword.lead with
  | none | some (.string _) => pure ()
  | some _ =>
    if s.leadsWire || s.leadsPlain then
      throw (.source
        (.unreadable Settings.levelField.plain "EnvSettingsSource"))
    else pure ()

-- ========================================================== arguments

/-- The kind of a value, as it is named in a report. -/
def kindOf : Value → String
  | .null => "NoneType"
  | .bool _ => "bool"
  | .int _ => "int"
  | .float _ => "float"
  | .string _ => "str"
  | .path _ => "pathlib.PosixPath"
  | .list _ => "list"
  | .map _ => "dict"

/-- What stands before the fields in switches: names with points between them,
and a point. -/
def switchLead (given : List (String × Value)) : Program String := do
  match keyword? given Keyword.switchLead with
  | none => return ""
  | some v =>
    if v.saysNothing then return ""
    else match v with
      | .string text =>
        let ends := [text.toList.head?, text.toList.getLast?]
        if ends.contains (some '.')
          || !Text.isIdentifier (text.toList.filter (· ≠ '.')) then
          throw (.source (.invalidLead text))
        else return text ++ "."
      | _ => throw .noText

/-- Whether a value is that text. -/
def isText (text : String) : Value → Bool
  | .string other => text = other
  | _ => false

/-- The fault of dashes in a list. There may be none to start the switch for
help with, or not the one that it starts with; and a list is no text in the
end. -/
def listFault (items : List Value) : Console.Fault :=
  match if items.any (isText "-") then some (.string "-") else items.head? with
  | none => .noItem
  | some (.string dash) =>
    let switch := dash ++ "h"
    if items.any (isText (.ofList (switch.toList.take 1))) then .notText
    else .switches (.undashed switch (Value.shown (.list items)))
  | some _ => .notText

/-- The dashes of switches. -/
def dashes (given : List (String × Value)) : Program (List Char) :=
  match keyword? given Keyword.dashes with
  | none => return ['-']
  | some (.string "") => throw .noCharacter
  | some (.string text) => return text.toList
  | some (.list items) => throw (listFault items)
  | some _ => throw .notText

/-- The shortcuts for a name: a text is one, and a list holds them. -/
def shortcutsOf : Value → Option (List String)
  | .string text => some [text]
  | .list items => items.mapM fun
    | .string text => some text
    | _ => none
  | .map members => some (members.map (·.1))
  | _ => none

/-- The shortcuts for names in switches. -/
def shortcuts (given : List (String × Value)) :
    Program (List (String × Option (List String))) := do
  match keyword? given Keyword.shortcuts with
  | some (.map members) =>
    return members.map fun (name, v) => (name, shortcutsOf v)
  | some v => if v.saysNothing then return [] else throw .noText
  | none => return []

/-- How the switches for a truth value look. -/
def truthForm (given : List (String × Value)) : Settings.Arguments.TruthForm :=
  if !isOn given Keyword.truthForm then .valued
  else if keywordText? given Keyword.truthForm = some "toggle" then .negative
  else .paired

/-- The title of the report about the switches. -/
def switchTitle : String := "_CliArg"

/-- The words that stand beside the truth values for how names are spelled. -/
def spellings : List String := ["all", "no_enums"]

/-- A truth value, or one of the words beside them. -/
def checkSpelling (v : Value) : Checked Unit :=
  let listed :=
    "[" ++ String.intercalate "," (spellings.map Text.quoted) ++ "]"
  let isWord := match v with
    | .string word => spellings.contains word
    | _ => false
  match isWord, Settings.checkTruth v with
  | false, .refused issues =>
    let word : Checked Unit := .issue (.notChoice spellings)
    Functor.mapConst () ((Checked.refused issues : Checked Unit).below "bool")
      <* word.below ("literal" ++ listed)
  | _, _ => .accepted ()

/-- Whether case matters in switches. The keywords that the switches depend on
are checked. -/
def checkedCase (given : List (String × Value)) : Checked Bool :=
  let value (name : String) := (keyword? given name).getD (.bool false)
  (fun isExact _ _ => isExact)
    <$> (Settings.checkTruth (value Keyword.isExact)).below "case_sensitive"
    <*> (Settings.checkTruth (value Keyword.hidesNull)).below "hide_none_type"
    <*> (checkSpelling (value Keyword.isDashed)).below "kebab_case"

/-- The text that stands for null among arguments, if it is one. Where one is
given for variables, that one counts. -/
def argumentNull (given : List (String × Value)) : Value :=
  match [Keyword.nullText, Keyword.argumentNullText].find? (isOn given) with
  | some name => (keyword? given name).getD .null
  | none =>
    .string <|
      if (keyword? given Keyword.avoidsJson).any (isTruth true) then "None"
      else "null"

/-- How arguments are read. -/
def argumentReader (given : List (String × Value)) :
    Program Settings.Arguments.Reader := do
  let lead ← switchLead given
  let dashes ← dashes given
  let isExact ← match (checkedCase given).toExcept switchTitle with
    | .ok isExact => pure isExact
    | .error refusal => throw (.refused refusal)
  let nullText := match argumentNull given with
    | .string text => some text
    | _ => none
  return {
    dashes, isExact, lead, nullText
    foldsSwitches := (keyword? given Keyword.isExact).all (isTruth false)
    isDashed := isOn given Keyword.isDashed
    shortcuts := ← shortcuts given
    truthForm := truthForm given
    spellsNull := nullText.isSome || isOn given Keyword.hidesNull
    passesOver := isOn given Keyword.passesOver }

/-- The text of an argument. What says nothing is empty. -/
def argumentText : Value → Program String
  | .string text => return text
  | v => if v.saysNothing then return "" else throw .notText

/-- Values with texts for them: those that are texts, and stand-ins, longer
than any of them. -/
def standIns (longest : Nat) (items : List Value) : List (String × Value) :=
  items.zipIdx.map fun (v, i) =>
    match v with
    | .string text => (text, v)
    | v => (String.ofList (.replicate (longest + 1 + i) '0'), v)

/-- Arguments with texts for them. Where case matters in switches, what says
nothing stays what it is, as does everything behind the separator, and a text
stands in for it: a longer one than any other that there is, so that nothing
else can be taken for it. -/
def argumentTexts (r : Settings.Arguments.Reader) (items : List Value) :
    Program (List (String × Value)) :=
  if r.foldsSwitches then items.mapM fun v => do
    let text ← argumentText v
    return (text, .string text)
  else do
    let ahead := items.takeWhile fun v => !isText Arguments.separatorText v
    ahead.forM fun v => do
      let _ ← argumentText v
    let texts := items.filterMap fun
      | .string text => some text
      | _ => none
    return standIns
      (((r.nullText.toList ++ texts).map String.length).foldl max 1) items

/-- What was found, with the values for which texts stand in. Null says nothing
of a field, and an empty list is spelled out. -/
def withoutStandIns (arguments : List (String × Value))
    (layer : Settings.Layer) : Settings.Layer :=
  layer.filterMap fun (name, v) =>
    let meant := match v with
      | .string text => (arguments.lookup text).getD v
      | v => v
    match v, meant with
    | .string _, .null => none
    | .string _, .list _ => some (name, .string "[]")
    | _, meant => some (name, meant)

/-- Wrong arguments stop the program, unless a keyword says that they do
not. -/
def stopFor (given : List (String × Value)) (fault : Arguments.Fault) :
    Program Settings.Layer :=
  if (keyword? given Keyword.stops).any Value.saysNothing then
    throw (.source (.misused fault))
  else throw (.stopped 2)

/-- What the arguments say of the settings. Where a keyword has case matter by
a word for no, their names are not found again, and they say nothing. -/
def argumentLayer (given : List (String × Value)) :
    Program Settings.Layer := do
  match keyword? given Keyword.arguments with
  | none => return []
  | some v => do
    let reader ← argumentReader given
    let grammar ← match reader.grammar with
      | .ok grammar => pure grammar
      | .error fault => throw (.switches fault)
    let arguments ← match v with
      | .bool _ | .int 0 | .float (.finite _ 0 _) => pure []
      | .list items => argumentTexts reader items
      | v => throw (.source (.notArguments (kindOf v)))
    if reader.foldsSwitches
        && arguments.head?.any (·.1 ≠ Arguments.separatorText) then
      match reader.dashFault? with
      | some fault => throw (.switches fault)
      | none => pure ()
    match reader.read grammar (arguments.map (·.1)) with
    | .ok layer =>
      return if reader.isExact = isOn given Keyword.isExact
        then withoutStandIns arguments layer
        else []
    | .error .help => throw (.stopped 0)
    | .error (.misused (.unrecognized left)) =>
      if left.any fun text => !(arguments.lookup text).all (isText text) then
        throw .notText
      else stopFor given (.unrecognized left)
    | .error (.misused fault) => stopFor given fault

-- ============================================================ secrets

/-- The kind of what stands at a place, as it is named in a report. -/
def entryKind : Disk.Entry → String
  | .file _ => "file"
  | .device => "char device"
  | .directory _ => "directory"

/-- The directories of secrets, each with the names in it. One that is not
there is passed over. -/
def secretDirectories (given : List (String × Value)) :
    Program (List (Path × List String)) := do
  let items ← match keyword? given Keyword.secrets with
    | none => pure []
    | some v => pathItems v
  let paths ← items.mapM pathOf
  let entries ← paths.mapM fun path => do
    return (← entryAt path).map fun entry => (path, entry)
  (entries.filterMap id).mapM fun (path, entry) =>
    match entry with
    | .directory names => pure (path, names)
    | other => throw (.source (.notDirectory (entryKind other)))

/-- The secret under a name, from the first directory that has a file under
it. -/
def secretUnder? (s : Settings.Search) (field : Field) (name : String) :
    List (Path × List String) → Program (Option String)
  | [] => return none
  | (path, names) :: rest => do
    match names.find? (s.agrees name) with
    | none => secretUnder? s field name rest
    | some found =>
      match ← entryAt (path.child found) with
      | some (.file bytes) =>
        match Disk.textOf .utf8 bytes with
        | .ok text => return some (Text.trim (.ofList text))
        | .error _ =>
          throw (.source (.unreadable field.plain "SecretsSettingsSource"))
      | _ => secretUnder? s field name rest

/-- What secrets say of the settings. Of several directories the later
counts. -/
def secretLayer (given : List (String × Value)) (s : Settings.Search) :
    Program Settings.Layer := do
  let directories := (← secretDirectories given).reverse
  let members ← Settings.fields.mapM fun field => do
    match ← secretUnder? s field (s.wireName field) directories with
    | some text => return some (field.wire, Value.string text)
    | none =>
      let text? ← secretUnder? s field (s.plainName field) directories
      return text?.map fun text => (field.plain, .string text)
  return members.filterMap id

-- =========================================================== settings

/-- The settings that the sources make up. Of several variable files the later
counts. -/
def settingsFrom (given : List (String × Value)) :
    Program (Except Refusal Settings) := do
  let s ← search given
  let bindings ← (← variableFileItems given).mapM (variablesOf given)
  let arguments ← argumentLayer given
  demandLead given s
  let environment :=
    (← get).environment.map fun (name, value) => (name, some value)
  let secrets ← secretLayer given s
  let layers := [s.layer environment, s.fileLayer bindings.flatten, secrets]
  return Settings.read { arguments, given, layers }

/-- The two items that a value has: those of a list, the names of a map or the
characters of a text. -/
def twoItems (v : Value) : Program (Value × Value) := do
  let items ← match v with
    | .list items => pure items
    | .map members => pure (members.map fun (name, _) => .string name)
    | .string text =>
      pure ((Text.points text.toList).map fun n =>
        .string (.ofList (Text.ofPoint n)))
    | _ => throw .notItems
  match items with
  | [first, second] => return (first, second)
  | items => throw (.notTwo items.length)

/-- The settings that are asked for. Sources already made take the place of all
others; none can be given as values, but there may be no sources at all. -/
def settings (given : List (String × Value)) :
    Program (Except Refusal Settings) := do
  if (given.lookup Keyword.itself).isSome then throw .notText
  match keyword? given Keyword.sources with
  | none => settingsFrom given
  | some v => do
    let (sources, _) ← twoItems v
    if sources.saysNothing then return .ok {} else throw .notItems

end Program
end Colloquy
