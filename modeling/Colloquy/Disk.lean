/-
Files, as far as this library reads them. A disk answers a path with what
stands there, or with the reason why nothing does. What is asked of a disk goes
by bytes; a path whose text cannot be written in bytes names nothing that could
be asked for, and neither does one with a null character.

A file tree is a disk: files under their names below a working directory, and a
directory wherever a name leads on. Of what lies outside, only what every
system has is known.
-/
import Colloquy.Path
import Colloquy.Text.Encoding
import Colloquy.Text.Lines

namespace Colloquy

-- ============================================================= disks

/-- Why nothing is found at a place. -/
inductive Disk.Fault
  | absent
  | denied
  | notDirectory
  | isDirectory
  | nameTooLong
deriving DecidableEq, Repr

/-- The number of a fault. -/
def Disk.Fault.number : Disk.Fault → Nat
  | .absent => 2
  | .denied => 13
  | .notDirectory => 20
  | .isDirectory => 21
  | .nameTooLong => 36

/-- The wording of a fault. -/
def Disk.Fault.message : Disk.Fault → String
  | .absent => "No such file or directory"
  | .denied => "Permission denied"
  | .notDirectory => "Not a directory"
  | .isDirectory => "Is a directory"
  | .nameTooLong => "File name too long"

/-- What stands at a place: a file with its bytes, a device with nothing to be
read from it, or a directory with the names in it. -/
inductive Disk.Entry
  | file (bytes : List UInt8)
  | device
  | directory (names : List String)
deriving DecidableEq, Repr

/-- The bytes that are read from what stands at a place. -/
def Disk.Entry.bytes : Disk.Entry → Except Disk.Fault (List UInt8)
  | .file bytes => .ok bytes
  | .device => .ok []
  | .directory _ => .error .isDirectory

/-- What answers paths. -/
structure Disk where
  find : Path → Except Disk.Fault Disk.Entry

namespace Disk

/-- Why a path cannot be asked for: it holds a null character, or halves of
surrogate pairs, which have no bytes; these stand side by side from some
position on. -/
inductive PathFault
  | null
  | halves (position : Nat) (points : List Nat)
deriving DecidableEq, Repr

/-- The wording of a fault of a path. -/
def PathFault.message : PathFault → String
  | .null => "embedded null byte"
  | .halves position points =>
    let what := match points with
      | [point] =>
        "character '" ++ String.ofList ('\\' :: 'u' :: Text.hexDigits 4 point)
          ++ s!"' in position {position}"
      | points =>
        s!"characters in position {position}-{position + points.length - 1}"
    "'utf-8' codec can't encode " ++ what ++ ": surrogates not allowed"

/-- Whether a code point stands for a byte that is no text: some of the halves
do. -/
def isByte (point : Nat) : Bool := 0xdc80 ≤ point && point ≤ 0xdcff

/-- The first halves among code points that have no bytes, if there are any. -/
def halvesFrom (position : Nat) : List Nat → Option PathFault
  | [] => none
  | point :: rest =>
    if Text.isHalf point && !isByte point then
      some (.halves position (point :: rest.takeWhile Text.isHalf))
    else halvesFrom (position + 1) rest

/-- Why a text cannot be asked for as a path, if it cannot. -/
def pathFault? (text : String) : Option PathFault :=
  match halvesFrom 0 (Text.points text.toList) with
  | some fault => some fault
  | none => if text.toList.contains '\x00' then some .null else none

/-- The number of bytes of a name or a path. -/
def byteCount (text : String) : Nat :=
  ((Text.points text.toList).map fun point =>
    if isByte point then 1
    else (Text.Utf8.encodePoint point).length).foldl (· + ·) 0

/-- Why a file cannot be read as text. -/
inductive TextFault
  | unopened (path : Path) (fault : Fault)
  | path (fault : PathFault)
  | undecodable (fault : Text.Encoding.Fault)
deriving DecidableEq, Repr

/-- The wording of a fault of reading. -/
def TextFault.message : TextFault → String
  | .unopened file fault =>
    s!"[Errno {fault.number}] {fault.message}: {Text.quoted file.text}"
  | .path fault => fault.message
  | .undecodable fault => fault.message

/-- What stands at a path. -/
def entry (disk : Disk) (path : Path) : Except TextFault Entry :=
  match pathFault? path.text with
  | some fault => .error (.path fault)
  | none => (disk.find path).mapError (.unopened path)

/-- What stands at a path, if anything does. That a name is too long is a fault
even then. -/
def entry? (disk : Disk) (path : Path) : Except TextFault (Option Entry) :=
  match disk.entry path with
  | .ok entry => .ok (some entry)
  | .error (.unopened path .nameTooLong) =>
    .error (.unopened path .nameTooLong)
  | .error _ => .ok none

/-- The text that bytes spell, its line ends made one. -/
def textOf (encoding : Text.Encoding) (bytes : List UInt8) :
    Except TextFault (List Char) :=
  match encoding.decode bytes with
  | .error fault => .error (.undecodable fault)
  | .ok text => .ok (Text.unifyLineEnds text)

/-- The text of a file, its line ends made one. -/
def readText (disk : Disk) (path : Path) : Except TextFault (List Char) := do
  let entry ← disk.entry path
  let bytes ← entry.bytes.mapError (.unopened path)
  textOf .utf8 bytes

end Disk

-- ========================================================= file trees

/-- Files under the names that lead to them. -/
abbrev FileTree := List (List String × List UInt8)

/-- A place on the way through a disk: below the working directory, below the
root, or somewhere that is not known. -/
inductive FileTree.Place
  | inside (names : List String)
  | system (names : List String)
  | outside
deriving DecidableEq, Repr

namespace FileTree

/-- The bytes of the file at a place; of two files at one place, the later. -/
def fileAt (files : FileTree) (place : List String) : Option (List UInt8) :=
  (files.reverse.find? fun file => file.1 = place).map (·.2)

/-- The names that lead on from a place, each once. -/
def namesIn (files : FileTree) (place : List String) : List String :=
  (files.filterMap fun file =>
    if place.isPrefixOf file.1 then file.1[place.length]? else none).eraseDups

/-- The directories that every system has. -/
def systemDirectories : List (List String) := [
  [], ["bin"], ["boot"], ["dev"], ["etc"], ["home"], ["lib"], ["media"],
    ["mnt"], ["opt"], ["proc"],
  ["root"], ["run"], ["sbin"], ["srv"], ["sys"], ["tmp"], ["usr"], ["var"],
    ["dev", "shm"],
  ["usr", "bin"], ["usr", "lib"], ["usr", "local"], ["usr", "share"],
    ["var", "lib"], ["var", "log"],
  ["var", "tmp"]]

/-- The devices that every system has and that nothing is read from. -/
def systemDevices : List (List String) := [["dev", "null"]]

/-- What stands at a place. -/
def entryAt (files : FileTree) : Place → Except Disk.Fault Disk.Entry
  | .inside names =>
    match files.fileAt names with
    | some bytes => .ok (.file bytes)
    | none =>
      let more := files.namesIn names
      if names.isEmpty || !more.isEmpty then .ok (.directory more)
      else .error .absent
  | .system names =>
    if systemDevices.contains names then .ok .device
    else if systemDirectories.contains names then
      .ok (.directory
        ((systemDirectories ++ systemDevices).filterMap fun place =>
        if place.dropLast = names then place.getLast? else none))
    else .error .absent
  | .outside => .ok (.directory [])

/-- The place that a place is in. -/
def Place.parent : Place → Place
  | .inside [] | .outside => .outside
  | .inside names => .inside names.dropLast
  | .system names => .system names.dropLast

/-- The place under a name. -/
def Place.child? (name : String) : Place → Option Place
  | .inside names => some (.inside (names ++ [name]))
  | .system names => some (.system (names ++ [name]))
  | .outside => none

/-- The most bytes that a name may have. -/
def maxNameLength : Nat := 255

/-- The most bytes that a path may have. -/
def maxPathLength : Nat := 4095

/-- Follows names from a place. -/
def findFrom (files : FileTree) (place : Place) :
    List String → Except Disk.Fault Disk.Entry
  | [] => files.entryAt place
  | name :: rest =>
    match files.entryAt place with
    | .error fault => .error fault
    | .ok (.directory _) =>
      if name = ".." then files.findFrom place.parent rest
      else if Disk.byteCount name > maxNameLength then .error .nameTooLong
      else match place.child? name with
        | some place => files.findFrom place rest
        | none => .error .absent
    | .ok _ => .error .notDirectory

/-- The tree as a disk. -/
def disk (files : FileTree) : Disk where
  find path :=
    if Disk.byteCount path.text > maxPathLength then .error .nameTooLong
    else
      files.findFrom (if path.root.isEmpty then .inside [] else .system [])
        path.names

end FileTree
end Colloquy
