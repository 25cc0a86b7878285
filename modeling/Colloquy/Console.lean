/-
Programs that write to a console. What a program sees of the world, and what it
has written so far, is its state; so a program is a function, and what it has
written before a fault stays written.

Entries go to the same place as results, as far as the log is set up to write
them.
-/
import Colloquy.Engine
import Colloquy.Settings
import Colloquy.Settings.Arguments

namespace Colloquy

/-- A line that a program has written: of its results, of the log, or of
complaints. -/
inductive Console.Line
  | result (text : String)
  | entry (text : String)
  | complaint (text : String)
deriving DecidableEq, Repr

/-- What a program sees, and what it has written. -/
structure Console where
  environment : Environment
  disk : Disk
  now : Binary64
  log : Log.Setup := {}
  written : Array Console.Line := #[]

namespace Console

/-- A line among the results, to which the log is written too. -/
def Line.out? : Line → Option String
  | .result text | .entry text => some text
  | .complaint _ => none

/-- A line of results proper. -/
def Line.result? : Line → Option String
  | .result text => some text
  | .entry _ | .complaint _ => none

/-- A complaint. -/
def Line.complaint? : Line → Option String
  | .complaint text => some text
  | .result _ | .entry _ => none

/-- Lines as one text, each with its end. -/
def joined (lines : List String) : String :=
  String.join (lines.map fun line => line ++ "\n")

/-- The results proper, line by line. -/
def results (c : Console) : List String :=
  c.written.toList.filterMap Line.result?

/-- What was written to the place of results. -/
def out (c : Console) : String := joined (c.written.toList.filterMap Line.out?)

/-- What was written to the place of complaints. -/
def complaints (c : Console) : String :=
  joined (c.written.toList.filterMap Line.complaint?)

end Console

/-- What is wrong with a source of settings: secrets are to be in something
that is no directory, a field cannot be read from a source, arguments are given
as something else, they are wrong, or what stands before their switches is no
name. Such a fault is no refusal: it lies in the source and not in what the
source says. -/
inductive Settings.SourceFault
  | notDirectory (kind : String)
  | unreadable (field source : String)
  | notArguments (kind : String)
  | misused (fault : Arguments.Fault)
  | invalidLead (lead : String)
deriving DecidableEq, Repr

/-- The wording of a fault of a source. -/
def Settings.SourceFault.message : Settings.SourceFault → String
  | .notDirectory kind =>
    "secrets_dir must reference a directory, not a " ++ kind
  | .unreadable field source =>
    "error getting value for field \"" ++ field ++ "\" from source \""
      ++ source ++ "\""
  | .notArguments kind =>
    "cli_parse_args must be a list or tuple of strings, received <class '"
      ++ kind ++ "'>"
  | .misused fault => "error parsing CLI: " ++ fault.message
  | .invalidLead lead => "CLI settings source prefix is invalid: " ++ lead

/-- A fault that a program does not deal with. One that has been stopped has an
exit code. -/
inductive Console.Fault
  | refused (refusal : Refusal)
  | unread (fault : Disk.TextFault)
  | load (fault : LoadFault)
  | engine (fault : Engine.Fault)
  | source (fault : Settings.SourceFault)
  | encoding (fault : Text.Encoding.NameFault)
  | nullInEncoding
  | switches (fault : Settings.Arguments.SwitchFault)
  | noCharacter
  | noItem
  | notTwo (count : Nat)
  | notItems
  | notPath
  | notText
  | noPath
  | noText
  | noHome
  | stopped (code : Nat)

/-- The wording of a fault. -/
def Console.Fault.message : Console.Fault → String
  | .refused refusal => refusal.message
  | .unread fault => fault.message
  | .load fault => fault.message
  | .engine fault => fault.message
  | .source fault => fault.message
  | .encoding fault => fault.message
  | .nullInEncoding => "embedded null character"
  | .switches fault => fault.message
  | .noCharacter => "string index out of range"
  | .noItem => "list index out of range"
  | .notTwo count =>
    if count < 2 then s!"not enough values to unpack (expected 2, got {count})"
    else "too many values to unpack (expected 2)"
  | .notItems => "sources are required"
  | .notPath => "a path is required"
  | .notText => "a text is required"
  | .noPath => "a switch was given without a path"
  | .noText => "a lead was given without a text"
  | .noHome => "Could not determine home directory."
  | .stopped code => toString code

/-- What runs on a console. -/
abbrev Program := ExceptT Console.Fault (StateM Console)

namespace Program

-- =========================================================== writing

/-- A line is written. -/
def write (line : Console.Line) : Program Unit :=
  modify fun c => { c with written := c.written.push line }

/-- A line of results. -/
def print (line : String) : Program Unit := write (.result line)

/-- A line of complaints. -/
def complain (line : String) : Program Unit := write (.complaint line)

/-- An entry is written, if the log is set up for it. -/
def note (entry : Log.Entry) : Program Unit := do
  let c ← get
  (c.log.line? c.now entry).toList.forM fun line => write (.entry line)

/-- The log is set up. -/
def configureLog (s : Settings) : Program Unit :=
  modify fun c =>
    { c with log := { level := s.level.number, format := some s.format } }

-- ============================================================ engines

/-- The registry that settings ask for, or why there is none. -/
def start (s : Settings) : Program (Except LoadFault Registry) := do
  let started := s.start (← get).disk
  started.entries.forM note
  return started.registry

/-- An engine with the handlers that every table starts with, none of which can
fail. -/
abbrev PlainEngine := Engine (ContextHandler Empty)

/-- An idle engine with a registry. -/
def engineOf (registry : Registry) : PlainEngine where
  registry := registry
  handlers :=
    .ofList (Handler.builtins.map fun (name, h) => (name, h.toContextHandler))

/-- An input is dealt with. -/
def handle (e : PlainEngine) (text intent : String) :
    Program (PlainEngine × Outcome) := do
  let r := e.handle text intent
  r.entries.forM note
  match r.outcome with
  | .ok outcome => return (r.engine, outcome)
  | .error (.engine fault) => throw (.engine fault)
  | .error (.handler fault) => nomatch fault

end Program
end Colloquy
