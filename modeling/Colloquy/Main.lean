/-
The program. It reads what the command line may ask for, runs it, and writes
down what it wrote.
-/
import Colloquy.CommandLine
import Std.Time.DateTime

namespace Colloquy.Main

/-- The number of an error, which the system may give with a sign. -/
def errorNumber (code : UInt32) : Nat :=
  if code.toNat < twoTo 31 then code.toNat else twoTo 32 - code.toNat

/-- Why a file cannot be opened, by the number of the error; what is not told
apart counts as absence. -/
def faultOfNumber (number : Nat) : Disk.Fault :=
  ([.denied, .notDirectory, .isDirectory, .nameTooLong].find?
    fun fault : Disk.Fault => fault.number = number).getD .absent

/-- Why a file cannot be opened. -/
def faultOf : IO.Error → Disk.Fault
  | .permissionDenied _ code _
  | .inappropriateType _ code _
  | .invalidArgument _ code _ => faultOfNumber (errorNumber code)
  | _ => .absent

/-- What the system says, as a text. -/
def textOf (said : String) : String := .ofList (Text.ofCharacters said.toList)

/-- A text, as it is said to the system. -/
def saidOf (text : String) : String := .ofList (Text.characters text.toList)

/-- The bytes of a file. -/
def readFile (path : Path) : IO (Except Disk.Fault (List UInt8)) := do
  try
    let bytes ← IO.FS.readBinFile (saidOf path.text)
    return .ok bytes.toList
  catch e => return .error (faultOf e)

/-- What stands at a path. The names in a directory are not asked for. -/
def readEntry (path : Path) : IO (Except Disk.Fault Disk.Entry) := do
  match ← readFile path with
  | .ok bytes => return .ok (.file bytes)
  | .error .isDirectory => return .ok (.directory [])
  | .error fault => return .error fault

/-- The disk as it is now, as far as the paths lead. -/
def snapshot (paths : List Path) : IO Disk := do
  let found ← paths.mapM fun path => do
    return (path, ← readEntry path)
  return { find := fun path => (found.lookup path).getD (.error .absent) }

/-- A variable of the environment, as the system writes it. -/
def variableOf (text : List Char) : Option (String × String) :=
  match Text.cutAt '=' text with
  | (name, some value) => some (.ofList name, .ofList value)
  | (_, none) => none

/-- The environment. Where the system does not tell it, the names of the
settings are asked for. -/
def environment : IO Environment := do
  match ← readFile (.ofText "/proc/self/environ") with
  | .ok bytes =>
    let texts := (Text.Utf8.decode bytes).toOption.getD []
    return (Text.splitAt '\x00' texts).filterMap variableOf
  | .error _ =>
    let found ←
      (Settings.fields.flatMap fun f => [f.wire, f.plain]).mapM fun name => do
      return (← IO.getEnv name).map fun value => (name, textOf value)
    return found.filterMap id

/-- The seconds that have passed since the epoch. -/
def now : IO Binary64 := do
  let nanoseconds := (← Std.Time.Timestamp.now).toNanosecondsSinceUnixEpoch.val
  return .ofRatio (nanoseconds < 0) nanoseconds.natAbs (tenTo 9)

/-- The files that arguments lead to, given what the settings say. -/
def pathsOf (arguments : List String) (c : Console) : List Path :=
  let asked := match CommandLine.Command.read arguments with
    | .ok command => command.paths
    | .error _ => []
  let configured := match ((Program.settings []).run c).1 with
    | .ok (.ok s) => s.definitions.toList
    | _ => []
  Program.variableFilePath :: asked ++ configured

end Colloquy.Main

open Colloquy in
/-- The command line, run on the system. -/
def main (given : List String) : IO UInt32 := do
  let arguments := given.map Main.textOf
  let first : Console := {
    environment := ← Main.environment
    disk := ← Main.snapshot [Program.variableFilePath]
    now := ← Main.now }
  let disk ← Main.snapshot (Main.pathsOf arguments first)
  let (result, c) := (CommandLine.run arguments).run { first with disk }
  IO.print (Main.saidOf c.out)
  IO.eprint (Main.saidOf c.complaints)
  match result with
  | .ok code => return code.toUInt32
  | .error fault =>
    IO.eprintln (Main.saidOf fault.message)
    return 1
