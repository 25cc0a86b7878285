/-
Files of definitions, and the report on them. A file holds definitions, or
it is spoilt: it cannot be read, or reading its lines stops
(`loadFile_cases`). Files are loaded one after another. Those that hold
definitions have them registered in order, and the first one that is spoilt
ends it, whatever comes after it; so a list of files is cut there
(`cut_cases`), and loading follows the cut.

# What is reported

The report is about what is left when all files are loaded: each id once, in
the order in which the ids first came, with its last definition
(`Registry.survivors`). What was overwritten is not reported and does not
count for the exit code, and nothing is reported unless every file was
loaded (`validate_reports_survivors`). What the lines say is told by `Reports`,
from the problems of a definition.
-/
import Colloquy.Proofs.Console
import Colloquy.Proofs.Registry

namespace Colloquy

-- ================================================================ files

namespace Disk

/-- The file can be read, and its lines `Hold` the definitions. -/
def Holds (disk : Disk) (path : Path) (ds : List Definition) : Prop :=
  ∃ text, disk.readText path = .ok text ∧ Batch.Hold (Text.lines text) ds

/-- The fault of a file that holds no definitions: it cannot be read, or
reading its lines `Stops`. -/
inductive Spoils (disk : Disk) (path : Path) : LoadFault → Prop
  | unread {fault : TextFault} (h : disk.readText path = .error fault) :
      Spoils disk path (.unread fault)
  | stops {text : List Char} {number : Nat} {fault : Batch.Fault}
      (h : disk.readText path = .ok text)
      (hstops : Batch.Stops 1 (Text.lines text) number fault) :
      Spoils disk path (.batch fault)

variable {disk : Disk} {path : Path}

/-- A file cannot both be spoilt and hold definitions. -/
theorem Spoils.not_holds {fault : LoadFault} (h : disk.Spoils path fault)
    (ds : List Definition) : ¬ disk.Holds path ds := by
  rintro ⟨text, htext, hds⟩
  cases h with
  | unread h => exact nomatch h.symm.trans htext
  | stops h hstops =>
      cases Except.ok.inj (h.symm.trans htext)
      exact hstops.not_hold ⟨ds, hds⟩

/-- A file `Holds` definitions, or a fault `Spoils` it. -/
theorem holds_or_spoils (disk : Disk) (path : Path) :
    (∃ ds, disk.Holds path ds) ∨ ∃ fault, disk.Spoils path fault := by
  cases htext : disk.readText path with
  | error fault => exact .inr ⟨_, .unread htext⟩
  | ok text =>
      rcases Batch.readLines_cases (Text.lines text) 1
        with ⟨ds, hds, -⟩ | ⟨number, fault, hstops, -⟩
      · exact .inl ⟨ds, text, htext, hds⟩
      · exact .inr ⟨_, .stops htext hstops⟩

/-- A file that `Holds` definitions is loaded with them. -/
theorem Holds.loadFile {ds : List Definition} (h : disk.Holds path ds)
    (r : Registry) : r.loadFile disk path = .ok (r.take ds) := by
  obtain ⟨text, htext, hds⟩ := h
  unfold Registry.loadFile
  rw [htext]
  dsimp only
  unfold Registry.loadBatch Batch.read
  rw [hds.readLines 1]
  rfl

/-- A fault that `Spoils` a file is what `loadFile` fails with. -/
theorem Spoils.loadFile {fault : LoadFault} (h : disk.Spoils path fault)
    (r : Registry) : r.loadFile disk path = .error fault := by
  unfold Registry.loadFile
  cases h with
  | unread h => rw [h]
  | stops h hstops =>
      rw [h]
      dsimp only
      unfold Registry.loadBatch Batch.read
      rw [hstops.readLines]
      rfl

/-- A list of files, some of them asked for without a path, is cut where
loading ends: behind the last one if each `Holds` definitions, and otherwise at
the first one that has no path or is spoilt. -/
theorem cut_cases (disk : Disk) (paths : List (Option Path)) :
    ∃ before dss rest, paths = before.map some ++ rest
      ∧ List.Forall₂ disk.Holds before dss
      ∧ (rest = []
        ∨ (∃ path fault after, rest = some path :: after
          ∧ disk.Spoils path fault)
        ∨ ∃ after, rest = none :: after) := by
  induction paths with
  | nil => exact ⟨[], [], [], rfl, .nil, .inl rfl⟩
  | cons path? paths ih =>
      rcases path? with _ | path
      · exact ⟨[], [], _, rfl, .nil, .inr (.inr ⟨paths, rfl⟩)⟩
      · rcases disk.holds_or_spoils path with ⟨ds, hds⟩ | ⟨fault, hspoils⟩
        · obtain ⟨before, dss, rest, rfl, hdss, hrest⟩ := ih
          exact ⟨path :: before, ds :: dss, rest, rfl, .cons hds hdss, hrest⟩
        · exact ⟨[], [], _, rfl, .nil,
            .inr (.inl ⟨path, fault, paths, rfl, hspoils⟩)⟩

/-- Each of the files `Holds` definitions, or there is a first one that is
spoilt. -/
theorem cut_files (disk : Disk) (files : List Path) :
    (∃ dss, List.Forall₂ disk.Holds files dss)
      ∨ ∃ before path after dss fault, files = before ++ path :: after
        ∧ List.Forall₂ disk.Holds before dss ∧ disk.Spoils path fault := by
  obtain ⟨before, dss, rest, hfiles, hdss, hrest⟩ :=
    disk.cut_cases (files.map some)
  obtain ⟨files, behind, rfl, hbefore, hbehind⟩ :=
    List.map_eq_append_iff.1 hfiles
  obtain rfl := List.map_injective_iff.2 (fun _ _ => Option.some.inj) hbefore
  rcases hrest with rfl | ⟨path, fault, after, rfl, hspoils⟩ | ⟨after, rfl⟩
  · rw [List.map_eq_nil_iff.1 hbehind, List.append_nil]
    exact .inl ⟨dss, hdss⟩
  · obtain ⟨first, after, rfl, hfirst, -⟩ := List.map_eq_cons_iff.1 hbehind
    cases hfirst
    exact .inr ⟨files, path, after, dss, fault, rfl, hdss, hspoils⟩
  · obtain ⟨first, after, -, hfirst, -⟩ := List.map_eq_cons_iff.1 hbehind
    cases hfirst

end Disk

namespace CommandLine

-- ============================================================== loading

/-- Files that hold definitions are registered by `loadAll` one after another,
and nothing is written. -/
theorem loadAll_of_hold {disk : Disk} {before : List Path}
    {dss : List (List Definition)} (h : List.Forall₂ disk.Holds before dss)
    {c : Console} (hc : c.disk = disk) (r : Registry)
    (rest : List (Option Path)) :
    ∃ c', c.Wrote c' [] []
      ∧ loadAll r (before.map some ++ rest) c
        = loadAll (r.registerAll dss.flatten) rest c' := by
  induction h generalizing r c with
  | nil => exact ⟨c, .refl c, rfl⟩
  | @cons path ds before dss hds hdss ih =>
      obtain ⟨c₁, hnotes, hwrote⟩ := Program.ends_notes (r.take ds).entries c
      obtain ⟨c', hwrote', hrest⟩ :=
        ih (hwrote.disk.trans hc) (r.registerAll ds)
      refine ⟨c', hwrote.trans hwrote', ?_⟩
      have hfirst : loadAll r (some path :: (before.map some ++ rest)) c
          = loadAll (r.registerAll ds) (before.map some ++ rest) c₁ := by
        rw [loadAll, get_bind_apply,
          (hc ▸ hds : c.disk.Holds path ds).loadFile]
        exact bind_of_ok hnotes
      rw [List.map_cons, List.cons_append, hfirst, hrest, List.flatten_cons,
        Registry.registerAll_append]

section Loading

variable {disk : Disk} {before : List Path} {dss : List (List Definition)}
  {c : Console}

/-- Behind files that hold definitions, `loadAll` ends as it does for the rest.
-/
theorem loadAll_ends (h : List.Forall₂ disk.Holds before dss)
    (hc : c.disk = disk) (r : Registry) {rest : List (Option Path)}
    {outcome : Except Console.Fault (Registry × Option (Path × LoadFault))}
    (hrest : ∀ c', c'.disk = disk →
      (loadAll (r.registerAll dss.flatten) rest).Ends c' outcome [] []) :
    (loadAll r (before.map some ++ rest)).Ends c outcome [] [] := by
  obtain ⟨c', hwrote, hall⟩ := loadAll_of_hold h hc r rest
  obtain ⟨c'', hends, hwrote'⟩ := hrest c' (hwrote.disk.trans hc)
  exact ⟨c'', hall.trans hends, hwrote.trans hwrote'⟩

theorem loadAll_whole (h : List.Forall₂ disk.Holds before dss)
    (hc : c.disk = disk) (r : Registry) :
    (loadAll r (before.map some)).Ends c
      (.ok (r.registerAll dss.flatten, none)) [] [] := by
  rw [← List.append_nil (before.map some)]
  exact loadAll_ends h hc r fun c' _ => Program.ends_pure _ c'

theorem loadAll_spoilt (h : List.Forall₂ disk.Holds before dss)
    (hc : c.disk = disk) (r : Registry) {path : Path} {fault : LoadFault}
    (hspoils : disk.Spoils path fault) (after : List (Option Path)) :
    (loadAll r (before.map some ++ some path :: after)).Ends c
      (.ok (r.registerAll dss.flatten, some (path, fault))) [] [] := by
  refine loadAll_ends h hc r fun c' hc' => ⟨c', ?_, .refl c'⟩
  subst hc'
  exact loadAll_of_error (hspoils.loadFile _) after

end Loading

-- ============================================================ reporting

/-- A line with the record of a definition `id` that has one state, `a`, piece
by piece. -/
def oneState (id initial : String) : List Char :=
  ["\x7b\"id\": ", "\"", id, "\"", ", \"triggerIntent\": ", "\"hi\"",
    ", \"initialState\": ", "\"", initial, "\"", ", \"exitMessage\": ", "\"\"",
    ", \"states\": ", "\x7b\"a\": ", "\x7b\"id\": \"a\"", ", \"onEnter\": ",
    "\"\"\x7d\x7d\x7d"].flatMap String.toList

/-- A line with the definition `greet`. -/
def greeting (initial : String) : List Char := oneState "greet" initial

end CommandLine
end Colloquy
