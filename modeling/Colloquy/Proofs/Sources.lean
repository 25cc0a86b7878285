/-
Where a batch comes from. A batch is a text, and the text may be given as it
is, stand in a file, or be put together from several. None of this makes a
difference to what is loaded.

Reading a file makes every line end one. That leaves the lines as they are,
and so the number of the line that is at fault (`loadFile_eq_loadBatch`).
Putting two texts under one another may merge what the first one ends with
and the line feed between them into one line end, and may leave a line of
nothing. That can shift the numbers of lines, but each text says what it says
alone: the definitions of the two are those of the one, followed by those of
the other one (`loadBatch_concatenates`).
-/
import Colloquy.Proofs.Text.Utf8
import Colloquy.Proofs.Validating

namespace Colloquy

-- ================================================================ batches

namespace Batch

open Text

/-- After `unifyLineEnds`, a batch reads as before: the same definitions, or
the same fault about the same line. -/
theorem read_unifyLineEnds (text : List Char) :
    read (unifyLineEnds text) = read text := by
  unfold read
  rw [lines_unifyLineEnds]

/-- Lines in front of others hold what both hold, in order. -/
theorem hold_append_iff {texts more : List (List Char)}
    {ds : List Definition} :
    List.Forall₂ Holds (texts ++ more) ds
      ↔ ∃ ds₁ ds₂, List.Forall₂ Holds texts ds₁ ∧ List.Forall₂ Holds more ds₂
        ∧ ds = ds₁ ++ ds₂ := by
  constructor
  · intro h
    have hfirst := List.forall₂_take_append _ _ _ h.flip
    have hrest := List.forall₂_drop_append _ _ _ h.flip
    exact ⟨_, _, hfirst.flip, hrest.flip, (List.take_append_drop ..).symm⟩
  · rintro ⟨ds₁, ds₂, hfirst, hrest, rfl⟩
    exact List.rel_append hfirst hrest

/-- Two texts with a line feed between them `Hold` what both hold, in order. -/
theorem hold_joined_iff {first second : List Char} {ds : List Definition} :
    Hold (lines (first ++ '\n' :: second)) ds
      ↔ ∃ ds₁ ds₂, Hold (lines first) ds₁ ∧ Hold (lines second) ds₂
        ∧ ds = ds₁ ++ ds₂ := by
  show List.Forall₂ Holds (spokenLines (first ++ '\n' :: second)) ds ↔ _
  rw [spokenLines_joined]
  exact hold_append_iff

/-- Texts joined by line feeds `Hold` what each of them holds, in order. -/
theorem hold_intercalate_iff {texts : List (List Char)}
    {ds : List Definition} :
    Hold (lines (['\n'].intercalate texts)) ds
      ↔ ∃ dss, List.Forall₂ (fun text => Hold (lines text)) texts dss
        ∧ ds = dss.flatten := by
  show List.Forall₂ Holds (spokenLines (['\n'].intercalate texts)) ds ↔ _
  rw [spokenLines_intercalate]
  induction texts generalizing ds with
  | nil =>
      simp only [List.flatMap_nil, List.forall₂_nil_left_iff, exists_eq_left,
        List.flatten_nil]
  | cons text texts ih =>
      rw [List.flatMap_cons, hold_append_iff]
      constructor
      · rintro ⟨ds₁, _, hfirst, hrest, rfl⟩
        obtain ⟨dss, hdss, rfl⟩ := ih.1 hrest
        exact ⟨ds₁ :: dss, .cons hfirst hdss, List.flatten_cons.symm⟩
      · rintro ⟨dss, hdss, rfl⟩
        cases hdss with
        | cons hfirst hrest =>
            exact ⟨_, _, hfirst, ih.2 ⟨_, hrest, rfl⟩, List.flatten_cons⟩

end Batch

-- ================================================================== files

namespace Disk

/-- The file holds the bytes of `text`, in which there are no halves of
surrogate pairs. -/
structure Keeps (disk : Disk) (path : Path) (text : List Char) : Prop where
  whole : Text.Utf8.IsWhole text
  entry : disk.entry path = .ok (.file (Text.Utf8.encode text))

variable {disk : Disk} {path : Path} {text : List Char}

/-- A file that `Keeps` a text is read as it, after `unifyLineEnds`. -/
theorem Keeps.readText (h : disk.Keeps path text) :
    disk.readText path = .ok (Text.unifyLineEnds text) := by
  rw [CommandLine.readText_of_file h.entry, textOf, Text.Encoding.decode,
    Text.Utf8.decode_encode h.whole]
  rfl

/-- A file that `Keeps` a text holds what the lines of the text hold. -/
theorem Keeps.holds_iff (h : disk.Keeps path text) {ds : List Definition} :
    disk.Holds path ds ↔ Batch.Hold (Text.lines text) ds := by
  unfold Holds
  rw [h.readText, ← Text.lines_unifyLineEnds text]
  constructor
  · rintro ⟨read, hread, hds⟩
    rwa [Except.ok.inj hread]
  · exact fun hds => ⟨_, rfl, hds⟩

/-- The same for lists of files and texts. -/
theorem forall₂_holds_iff {paths : List Path} {texts : List (List Char)}
    (h : List.Forall₂ disk.Keeps paths texts) {dss : List (List Definition)} :
    List.Forall₂ disk.Holds paths dss
      ↔ List.Forall₂ (fun text => Batch.Hold (Text.lines text)) texts dss := by
  induction h generalizing dss with
  | nil => rw [List.forall₂_nil_left_iff, List.forall₂_nil_left_iff]
  | cons hfirst _ ih =>
      rw [List.forall₂_cons_left_iff, List.forall₂_cons_left_iff]
      simp only [hfirst.holds_iff, ih]

/-- A file with the bytes of others, joined by line feeds, holds what these
hold, in order. -/
theorem holds_whole_iff {paths : List Path} {texts : List (List Char)}
    {whole : Path} (h : List.Forall₂ disk.Keeps paths texts)
    (hwhole : disk.entry whole
      = .ok (.file ([0x0a].intercalate (texts.map Text.Utf8.encode))))
    {ds : List Definition} :
    disk.Holds whole ds
      ↔ ∃ dss, List.Forall₂ disk.Holds paths dss ∧ ds = dss.flatten := by
  have htexts : ∀ text ∈ texts, Text.Utf8.IsWhole text := by
    intro text htext
    obtain ⟨path, -, hkeeps⟩ := exists_partner h.flip htext
    exact hkeeps.whole
  obtain ⟨hjoined, hbytes⟩ := Text.Utf8.isWhole_intercalate htexts
  have hkeeps : disk.Keeps whole (['\n'].intercalate texts) :=
    ⟨hjoined, hwhole.trans (by rw [hbytes])⟩
  rw [hkeeps.holds_iff, Batch.hold_intercalate_iff]
  simp only [forall₂_holds_iff h]

end Disk

-- ================================================================ loading

namespace Registry

/-- What `loadBatch` succeeds with is what the lines `Hold`. -/
theorem loadBatch_eq_ok_iff {r : Registry} {text : List Char}
    {loaded : Loaded} :
    r.loadBatch text = .ok loaded
      ↔ ∃ ds, Batch.Hold (Text.lines text) ds ∧ loaded = r.take ds := by
  constructor
  · intro hload
    rcases r.loadBatch_cases text
      with ⟨ds, hds, hload'⟩ | ⟨number, fault, -, hload'⟩
    · exact ⟨ds, hds, Except.ok.inj (hload.symm.trans hload')⟩
    · exact nomatch hload.symm.trans hload'
  · rintro ⟨ds, hds, rfl⟩
    unfold loadBatch Batch.read
    rw [hds.readLines 1]
    rfl

/-- What `loadFile` succeeds with is what the file `Holds`. -/
theorem loadFile_eq_ok_iff {r : Registry} {disk : Disk} {path : Path}
    {loaded : Loaded} :
    r.loadFile disk path = .ok loaded
      ↔ ∃ ds, disk.Holds path ds ∧ loaded = r.take ds := by
  constructor
  · intro hload
    rcases disk.holds_or_spoils path with ⟨ds, hds⟩ | ⟨fault, hspoils⟩
    · exact ⟨ds, hds, Except.ok.inj (hload.symm.trans (hds.loadFile r))⟩
    · exact nomatch hload.symm.trans (hspoils.loadFile r)
  · rintro ⟨ds, hds, rfl⟩
    exact hds.loadFile r

universe u v

/-- Loads one after another, up to the first that fails, with all their ids and
the last registry. -/
def loadEach {α : Type u} {ε : Type v} (load : Registry → α → Except ε Loaded)
    (r : Registry) : List α → Except ε (List String × Registry)
  | [] => .ok ([], r)
  | source :: rest =>
    match load r source with
    | .error fault => .error fault
    | .ok loaded =>
      match loadEach load loaded.registry rest with
      | .error fault => .error fault
      | .ok (ids, last) => .ok (loaded.ids ++ ids, last)

/-- If `load` succeeds just with the definitions of its source, `loadEach`
succeeds just with those of all sources. -/
theorem loadEach_eq_ok_iff {α : Type u} {ε : Type v}
    {load : Registry → α → Except ε Loaded}
    {holds : α → List Definition → Prop}
    (hload : ∀ r source loaded, load r source = .ok loaded
      ↔ ∃ ds, holds source ds ∧ loaded = r.take ds)
    {sources : List α} {r last : Registry} {ids : List String} :
    r.loadEach load sources = .ok (ids, last)
      ↔ ∃ dss, List.Forall₂ holds sources dss
        ∧ ids = dss.flatten.map (·.id) ∧ last = r.registerAll dss.flatten := by
  induction sources generalizing r ids with
  | nil =>
      constructor
      · rintro ⟨⟩
        exact ⟨[], .nil, rfl, rfl⟩
      · rintro ⟨dss, hdss, rfl, rfl⟩
        cases hdss
        rfl
  | cons source sources ih =>
      rw [loadEach]
      constructor
      · intro heach
        cases hfirst : load r source with
        | error fault =>
            rw [hfirst] at heach
            cases heach
        | ok loaded =>
            rw [hfirst] at heach
            dsimp only at heach
            obtain ⟨ds, hds, rfl⟩ := (hload r source loaded).1 hfirst
            cases hrest : (r.take ds).registry.loadEach load sources with
            | error fault =>
                rw [hrest] at heach
                cases heach
            | ok told =>
                rw [hrest] at heach
                cases heach
                obtain ⟨dss, hdss, hids, hlast⟩ := ih.1 hrest
                refine ⟨ds :: dss, .cons hds hdss, ?_, ?_⟩
                · rw [List.flatten_cons, List.map_append, hids]
                  rfl
                · rw [List.flatten_cons, registerAll_append, hlast]
                  rfl
      · rintro ⟨dss, hdss, rfl, hlast⟩
        cases hdss with
        | @cons _ ds _ dss hds hdss =>
            rw [List.flatten_cons, registerAll_append] at hlast
            have hrest : (r.take ds).registry.loadEach load sources
                = .ok (dss.flatten.map (·.id), last) :=
              ih.2 ⟨dss, hdss, rfl, hlast⟩
            rw [(hload r source _).2 ⟨ds, hds, rfl⟩]
            dsimp only
            rw [hrest, List.flatten_cons, List.map_append]
            rfl

end Registry

/-- Files are loaded by `loadAll`, all of them, just if each `Holds`
definitions. -/
theorem CommandLine.loadAll_eq_ok_iff {r last : Registry} {paths : List Path}
    {c : Console} :
    (loadAll r (paths.map some) c).1 = .ok (last, none)
      ↔ ∃ dss, List.Forall₂ c.disk.Holds paths dss
        ∧ last = r.registerAll dss.flatten := by
  constructor
  · intro hall
    rcases c.disk.cut_files paths with ⟨dss, hdss⟩
      | ⟨before, path, after, dss, fault, rfl, hdss, hspoils⟩
    · have houtcome := (loadAll_whole hdss rfl r).outcome
      cases houtcome.symm.trans hall
      exact ⟨dss, hdss, rfl⟩
    · have houtcome :=
        (loadAll_spoilt hdss rfl r hspoils (after.map some)).outcome
      rw [List.map_append, List.map_cons] at hall
      cases houtcome.symm.trans hall
  · rintro ⟨dss, hdss, rfl⟩
    exact (loadAll_whole hdss rfl r).outcome

namespace Script

theorem perform_loadFile (inner : Operation → Run Reply) (name : String)
    (s : Stage) :
    perform inner (.loadFile name) s
      = takeLoaded (s.engine.registry.loadFile s.disk (.ofText name)) s :=
  get_bind_apply _ s

theorem perform_loadBatch (inner : Operation → Run Reply) (batch : String)
    (s : Stage) :
    perform inner (.loadBatch batch) s
      = takeLoaded
          ((s.engine.registry.loadBatch batch.toList).mapError .batch) s :=
  get_bind_apply _ s

end Script

-- ========================================================= text and file

namespace Registry

/-- Loading a file comes to what loading the text comes to that it `Keeps`: the
same ids and the same registry, or the same fault, with the same wording and
about the same line. A run in which the one is asked for differs from a run
with the other one in its journal alone, which says which of the two it was. -/
theorem loadFile_eq_loadBatch {disk : Disk} {path : Path} {text : List Char}
    (h : disk.Keeps path text) :
    (∀ r : Registry,
      r.loadFile disk path = (r.loadBatch text).mapError .batch
        ∧ (r.loadFile disk path).mapError LoadFault.message
          = (r.loadBatch text).mapError Batch.Fault.message)
      ∧ ∀ (s : Script.Stage) (name batch : String), s.disk = disk →
        .ofText name = path → batch.toList = text →
          (Script.run (.loadFile name) s).1
              = (Script.run (.loadBatch batch) s).1
            ∧ ∃ journal, (Script.run (.loadFile name) s).2
              = { (Script.run (.loadBatch batch) s).2 with journal } := by
  have hload : ∀ r : Registry,
      r.loadFile disk path = (r.loadBatch text).mapError .batch := by
    intro r
    unfold loadFile
    rw [h.readText]
    dsimp only
    unfold loadBatch
    rw [Batch.read_unifyLineEnds]
  refine ⟨fun r => ⟨hload r, ?_⟩, ?_⟩
  · rw [hload]
    cases r.loadBatch text <;> rfl
  · rintro s name batch rfl rfl rfl
    have hperform : ∀ s' : Script.Stage, s'.disk = s.disk →
        Script.perform Script.run (.loadFile name) s'
          = Script.perform Script.run (.loadBatch batch) s' := by
      intro s' hdisk
      rw [Script.perform_loadFile, Script.perform_loadBatch, hdisk, hload]
    rw [Script.run_eq, Script.run_eq (.loadBatch batch)]
    unfold Script.journalled
    rw [hperform]
    · exact ⟨rfl, _, rfl⟩
    · rfl

/-- A greeting below which, behind line ends of three kinds, stands a line
that holds no record. -/
def badlyEnded : List Char :=
  CommandLine.greeting "a" ++ ['\r', '\n', '\u2028', '\r', '\x7b']

/-- A file with `badlyEnded`. -/
def badlyEndedFile : FileTree :=
  [(["bad.jsonl"], Text.Utf8.encode badlyEnded)]

/-- Loading `badlyEnded` fails at its fourth line, and so does loading the
file. -/
theorem loadFile_eq_loadBatch_badlyEnded :
    badlyEndedFile.disk.Keeps (.ofText "bad.jsonl") badlyEnded
      ∧ (({} : Registry).loadBatch badlyEnded).map (·.ids)
        = .error (.malformed 4 .nameExpected)
      ∧ (({} : Registry).loadFile badlyEndedFile.disk
          (.ofText "bad.jsonl")).mapError LoadFault.message
        = (({} : Registry).loadBatch badlyEnded).mapError
          Batch.Fault.message := by
  have hkeeps : badlyEndedFile.disk.Keeps (.ofText "bad.jsonl") badlyEnded :=
    ⟨⟨Text.isText_of_unmarked (by decide +kernel), by decide +kernel⟩,
      by decide +kernel⟩
  exact ⟨hkeeps, by decide +kernel, ((loadFile_eq_loadBatch hkeeps).1 {}).2⟩

-- ==================================================== texts put together

/-- Batches concatenate. A text and another one below it are loaded just if
each of them is; and then the ids are those of the one and those of the other
one behind them, and the registry is the one to which loading the one leads
and then the other one. The same goes for files: loading one after another
comes to loading a file in which their bytes stand under one another. -/
theorem loadBatch_concatenates (r : Registry) :
    (∀ first second : List Char,
      ((∃ loaded, r.loadBatch (first ++ '\n' :: second) = .ok loaded)
        ↔ (∃ loaded, r.loadBatch first = .ok loaded)
          ∧ ∃ loaded, r.loadBatch second = .ok loaded)
      ∧ ∀ loaded, r.loadBatch (first ++ '\n' :: second) = .ok loaded →
        ∃ one other, r.loadBatch first = .ok one
          ∧ one.registry.loadBatch second = .ok other
          ∧ loaded.ids = one.ids ++ other.ids
          ∧ loaded.registry = other.registry)
    ∧ ∀ (disk : Disk) (paths : List Path) (texts : List (List Char))
        (whole : Path), List.Forall₂ disk.Keeps paths texts →
        disk.entry whole
          = .ok (.file ([0x0a].intercalate (texts.map Text.Utf8.encode))) →
      (∀ ids last,
        r.loadEach (fun r path => r.loadFile disk path) paths = .ok (ids, last)
          ↔ ∃ loaded, r.loadFile disk whole = .ok loaded
            ∧ loaded.ids = ids ∧ loaded.registry = last)
      ∧ ∀ (c : Console) (last : Registry), c.disk = disk →
        ((CommandLine.loadAll r (paths.map some) c).1 = .ok (last, none)
          ↔ ∃ loaded, r.loadFile disk whole = .ok loaded
            ∧ loaded.registry = last) := by
  constructor
  · intro first second
    simp only [loadBatch_eq_ok_iff, Batch.hold_joined_iff]
    constructor
    · constructor
      · rintro ⟨-, -, ⟨ds₁, ds₂, hds₁, hds₂, -⟩, -⟩
        exact ⟨⟨_, ds₁, hds₁, rfl⟩, ⟨_, ds₂, hds₂, rfl⟩⟩
      · rintro ⟨⟨-, ds₁, hds₁, -⟩, ⟨-, ds₂, hds₂, -⟩⟩
        exact ⟨_, _, ⟨ds₁, ds₂, hds₁, hds₂, rfl⟩, rfl⟩
    · rintro loaded ⟨-, ⟨ds₁, ds₂, hds₁, hds₂, rfl⟩, rfl⟩
      exact ⟨_, _, ⟨ds₁, hds₁, rfl⟩, ⟨ds₂, hds₂, rfl⟩, List.map_append,
        registerAll_append r ds₁ ds₂⟩
  · intro disk paths texts whole hkeep hwhole
    have hholds : ∀ ds, disk.Holds whole ds
        ↔ ∃ dss, List.Forall₂ disk.Holds paths dss ∧ ds = dss.flatten :=
      fun ds => Disk.holds_whole_iff hkeep hwhole
    constructor
    · intro ids last
      have hload : ∀ (r : Registry) (path : Path) (loaded : Loaded),
          r.loadFile disk path = .ok loaded
            ↔ ∃ ds, disk.Holds path ds ∧ loaded = r.take ds :=
        fun r path loaded => loadFile_eq_ok_iff
      rw [loadEach_eq_ok_iff hload]
      simp only [hload, hholds]
      constructor
      · rintro ⟨dss, hdss, rfl, rfl⟩
        exact ⟨_, ⟨_, ⟨dss, hdss, rfl⟩, rfl⟩, rfl, rfl⟩
      · rintro ⟨-, ⟨-, ⟨dss, hdss, rfl⟩, rfl⟩, rfl, rfl⟩
        exact ⟨dss, hdss, rfl, rfl⟩
    · rintro c last rfl
      rw [CommandLine.loadAll_eq_ok_iff]
      simp only [loadFile_eq_ok_iff, hholds]
      constructor
      · rintro ⟨dss, hdss, rfl⟩
        exact ⟨_, ⟨_, ⟨dss, hdss, rfl⟩, rfl⟩, rfl⟩
      · rintro ⟨-, ⟨-, ⟨dss, hdss, rfl⟩, rfl⟩, rfl⟩
        exact ⟨dss, hdss, rfl⟩

/-- Two files, the first of which ends with a carriage return, and a third one
with the bytes of both. -/
def partedFiles : FileTree :=
  let first := Text.Utf8.encode (CommandLine.greeting "a" ++ ['\r'])
  let second := Text.Utf8.encode (CommandLine.greeting "b")
  [(["first.jsonl"], first), (["second.jsonl"], second),
    (["both.jsonl"], first ++ 0x0a :: second)]

/-- Loading the two of `partedFiles` gives two ids, although the definition of
the second takes the place of the first one. -/
theorem loadBatch_concatenates_parted :
    ∃ last, ({} : Registry).loadEach
        (fun r path => r.loadFile partedFiles.disk path)
        [.ofText "first.jsonl", .ofText "second.jsonl"]
          = .ok (["greet", "greet"], last)
      ∧ last.ids = ["greet"] := by
  have hkeep : List.Forall₂ partedFiles.disk.Keeps
      [.ofText "first.jsonl", .ofText "second.jsonl"]
      [CommandLine.greeting "a" ++ ['\r'], CommandLine.greeting "b"] := by
    refine .cons ⟨⟨Text.isText_of_unmarked ?_, ?_⟩, ?_⟩
      (.cons ⟨⟨Text.isText_of_unmarked ?_, ?_⟩, ?_⟩ .nil)
    all_goals decide +kernel
  have hboth := ((loadBatch_concatenates {}).2 partedFiles.disk _ _
    (.ofText "both.jsonl") hkeep (by decide +kernel)).1
  obtain ⟨loaded, hloaded, hids, hlast⟩ : ∃ loaded,
      ({} : Registry).loadFile partedFiles.disk (.ofText "both.jsonl")
          = .ok loaded
        ∧ loaded.ids = ["greet", "greet"]
        ∧ loaded.registry.ids = ["greet"] := by
    have htold : ((({} : Registry).loadFile partedFiles.disk
          (.ofText "both.jsonl")).map
            fun loaded => (loaded.ids, loaded.registry.ids)).toOption
        = some (["greet", "greet"], ["greet"]) := by
      decide +kernel
    cases hload : ({} : Registry).loadFile partedFiles.disk
        (.ofText "both.jsonl") with
    | error fault =>
        rw [hload] at htold
        cases htold
    | ok loaded =>
        rw [hload] at htold
        have hpair := Option.some.inj htold
        exact ⟨loaded, rfl, congrArg Prod.fst hpair, congrArg Prod.snd hpair⟩
  exact ⟨loaded.registry, (hboth _ _).2 ⟨loaded, hloaded, hids, rfl⟩, hlast⟩

end Registry
end Colloquy
