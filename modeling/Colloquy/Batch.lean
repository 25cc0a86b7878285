/-
Batches: one record a line, lines of blanks aside. A batch is good as a whole
or not at all; the first line that is not good says why.

A line that cannot be taken is named by its number, counted from one over all
lines. An integer with too many digits is refused by the reader as such and has
no line.
-/
import Colloquy.Disk
import Colloquy.Json.Reader
import Colloquy.Json.Writer
import Colloquy.Record
import Colloquy.Registry
import Colloquy.Text.Lines

namespace Colloquy
namespace Batch

/-- Why a batch is not good. -/
inductive Fault
  | malformed (line : Nat) (what : Json.Malformation)
  | notObject (line : Nat)
  | refused (line : Nat) (refusal : Refusal)
  | tooManyDigits (digits : Nat)
deriving DecidableEq, Repr

/-- The line at fault, where there is one to name. -/
def Fault.line? : Fault → Option Nat
  | .malformed line _ | .notObject line | .refused line _ => some line
  | .tooManyDigits _ => none

/-- The wording of a fault. -/
def Fault.message : Fault → String
  | .malformed line what => s!"line {line}: invalid JSON: " ++ what.message
  | .notObject line => s!"line {line}: expected a JSON object"
  | .refused line refusal =>
    s!"line {line}: invalid workflow record: " ++ refusal.message
  | .tooManyDigits digits => Json.tooManyDigitsMessage digits

/-- The definition on one line. -/
def readLine (line : Nat) (text : List Char) : Except Fault Definition :=
  match Json.read text with
  | .error (.malformed what _) => .error (.malformed line what)
  | .error (.tooManyDigits digits) => .error (.tooManyDigits digits)
  | .ok (.map members) =>
    match Record.read (.map members) with
    | .ok d => .ok d
    | .error refusal => .error (.refused line refusal)
  | .ok _ => .error (.notObject line)

/-- The definitions on the lines from number `line` on. -/
def readLines (line : Nat) : List (List Char) → Except Fault (List Definition)
  | [] => .ok []
  | text :: rest =>
    if Text.isAllBlank text then readLines (line + 1) rest
    else do
      let d ← readLine line text
      let more ← readLines (line + 1) rest
      return d :: more

/-- The definitions of a batch. -/
def read (text : List Char) : Except Fault (List Definition) :=
  readLines 1 (Text.lines text)

end Batch

-- =========================================================== loading

namespace Registry

/-- What came of a batch that was loaded: the registry after it, the ids of its
definitions in order, and the entries about it. -/
structure Loaded where
  registry : Registry
  ids : List String
  entries : List Log.Entry

/-- The definitions of a batch, registered in order. -/
def take (r : Registry) (ds : List Definition) : Loaded :=
  let ids := ds.map (·.id)
  { registry := r.registerAll ds, ids
    entries := r.registrationEntries ds ++ [loadedEntry ids] }

/-- A batch loaded into the registry, as a whole or not at all. -/
def loadBatch (r : Registry) (text : List Char) : Except Batch.Fault Loaded :=
  r.take <$> Batch.read text

end Registry

-- ============================================================= files

/-- Why a file could not be loaded. -/
inductive LoadFault
  | unread (fault : Disk.TextFault)
  | batch (fault : Batch.Fault)
deriving DecidableEq, Repr

/-- The wording of a fault of loading. -/
def LoadFault.message : LoadFault → String
  | .unread (.unopened path fault) =>
    "cannot read " ++ path.text ++ ": "
      ++ (Disk.TextFault.unopened path fault).message
  | .unread fault => fault.message
  | .batch fault => fault.message

/-- The file at `path` loaded into the registry as a batch. -/
def Registry.loadFile (r : Registry) (disk : Disk) (path : Path) :
    Except LoadFault Loaded :=
  match disk.readText path with
  | .error fault => .error (.unread fault)
  | .ok text => (r.loadBatch text).mapError .batch

end Colloquy
