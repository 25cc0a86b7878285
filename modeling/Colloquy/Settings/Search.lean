/-
How settings are looked for among variables. A variable has the wire name or
the plain name of a field, either perhaps with a lead in front. Case does not
matter, unless the search is told that it does.

What is found makes up a layer: values under the names of fields. Of a file of
variables, those that the search has no use for go into the layer too, under
their own names; so one that spells a field where the search would not look for
it still counts.
-/
import Colloquy.Checked
import Colloquy.Environment

namespace Colloquy.Settings

-- ============================================================ fields

/-- From which level on entries are written. -/
def levelField : Field := ⟨"TURNFLOW_LOG_LEVEL", "log_level"⟩

/-- The format of the log. -/
def formatField : Field := ⟨"TURNFLOW_LOG_FORMAT", "log_format"⟩

/-- The file of definitions to be loaded. -/
def definitionsField : Field :=
  ⟨"TURNFLOW_DEFINITIONS_PATH", "definitions_path"⟩

/-- Whether the packaged definitions are loaded. -/
def builtinsField : Field :=
  ⟨"TURNFLOW_LOAD_BUILTINS", "load_builtin_definitions"⟩

/-- Every field, in the order of reports. -/
def fields : List Field :=
  [levelField, formatField, definitionsField, builtinsField]

/-- What a source says of the settings: values under the names of fields. -/
abbrev Layer := List (String × Value)

-- ============================================================ search

/-- How variables are looked for: whether case matters in names, what stands
before them and before which of them, whether an empty variable is passed over,
and which text stands for null. -/
structure Search where
  isExact : Bool := false
  lead : String := ""
  leadsWire : Bool := false
  leadsPlain : Bool := true
  skipsEmpty : Bool := false
  nullText : Option String := none

/-- Variables with their values; one that stands alone has none. -/
abbrev Variables := List (String × Option String)

namespace Search

/-- A name as a search compares it. -/
def fold (s : Search) (name : String) : String :=
  if s.isExact then name else Environment.fold name

/-- Whether two names are the same to a search. -/
def agrees (s : Search) (name other : String) : Bool :=
  s.fold name = s.fold other

/-- The name of the variable for the wire name of a field. -/
def wireName (s : Search) (f : Field) : String :=
  s.fold ((if s.leadsWire then s.lead else "") ++ f.wire)

/-- The name of the variable for the plain name of a field. -/
def plainName (s : Search) (f : Field) : String :=
  s.fold ((if s.leadsPlain then s.lead else "") ++ f.plain)

/-- The variables under the names that a search compares; of several under one
name, the last. -/
def folded (s : Search) (entries : Variables) : Variables :=
  (entries.filter fun (_, value) => !(s.skipsEmpty && value = some "")).foldl
    (fun found (name, value) => putEntry (s.fold name) value found) []

/-- The text of a variable that has one. -/
def text? (found : Variables) (name : String) : Option String :=
  (found.lookup name).bind id

/-- What a search makes of a text. -/
def valueOf (s : Search) (text : String) : Value :=
  if s.nullText = some text then .null else .string text

/-- What `read` finds for a field under its names, the wire name first. -/
def member? {α : Type} (s : Search) (read : String → Option α) (f : Field) :
    Option (String × α) :=
  match read (s.wireName f) with
  | some a => some (f.wire, a)
  | none => (read (s.plainName f)).map fun a => (f.plain, a)

/-- What the environment says. -/
def layer (s : Search) (entries : Variables) : Layer :=
  fields.filterMap fun f =>
    (s.member? (text? (s.folded entries)) f).map fun (name, text) =>
      (name, s.valueOf text)

/-- Whether a search looks for variables of that name. -/
def uses (s : Search) (name : String) : Bool :=
  fields.any fun f => name = s.wireName f || name = s.plainName f

/-- A name without the lead. -/
def withoutLead (s : Search) (name : String) : String :=
  let lead := (s.fold s.lead).toList
  if lead.isPrefixOf name.toList then .ofList (name.toList.drop lead.length)
  else name

/-- Whether a variable of a file that a search has no use for goes under its
own name. -/
def isKept (s : Search) (layer : Layer) (name : String) : Bool :=
  let isPlain := fields.any fun f => f.plain = name
  !(layer.lookup name).isSome && !(isPlain && !s.lead.isEmpty) && !s.uses name

/-- What a file of variables says. -/
def fileLayer (s : Search) (entries : Variables) : Layer :=
  (s.folded entries).foldl (fun layer (name, value) =>
    match value with
    | none | some "" => layer
    | some text =>
      if s.isKept layer name then
        putEntry (s.withoutLead name) (.string text) layer
      else layer)
    (s.layer entries)

end Search
end Colloquy.Settings
