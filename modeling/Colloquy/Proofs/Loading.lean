/-
What loading comes to. A batch is read line by line, and the first line
that says something and holds no record ends the reading: its fault is the
fault of the batch, whatever stands on the lines after it. If there is no
such line, the batch is the definitions that its lines hold, in order. So
a load either registers all of them, one after another, or leaves
everything as it is (`run_loadBatch_all_or_nothing`).

# Faults of another kind

A load that fails is meant to fail with a load error, and one that names a
line where a line is at fault. Two layers below the records have faults of
their own, which pass through a load as they are: an integer with too many
digits is refused by the reader of JSON, and bytes that are no text by the
reader of files. There are no others (`loads_or_load_error_iff`), so
whoever deals with load errors deals with every file just if its bytes are
a text and too many digits are not the first thing wrong with it.
-/
import Mathlib.Data.List.Forall2
import Colloquy.CommandLine
import Colloquy.Proofs.Script.Budget
import Colloquy.Proofs.Text.Lines

namespace Colloquy

/-- In lists related by `Forall₂`, each member of the first has a partner in
the second. -/
theorem exists_partner {α β : Type} {R : α → β → Prop} {as : List α}
    {bs : List β} (h : List.Forall₂ R as bs) {a : α} (ha : a ∈ as) :
    ∃ b ∈ bs, R a b := by
  induction h with
  | nil => cases ha
  | @cons first b as bs hfirst _ ih =>
      rcases List.mem_cons.1 ha with rfl | ha
      · exact ⟨b, List.mem_cons_self, hfirst⟩
      · obtain ⟨b', hmem, hb'⟩ := ih ha
        exact ⟨b', List.mem_cons_of_mem _ hmem, hb'⟩

namespace Batch

open Text

-- ============================================================= one line

/-- The line is the JSON text of an object, and `Record.read` makes the
definition `d` of it. -/
def Holds (text : List Char) (d : Definition) : Prop :=
  ∃ members, Json.read text = .ok (.map members)
    ∧ Record.read (.map members) = .ok d

/-- The fault of a line that holds no record; `line` is its number. -/
inductive Spoils (line : Nat) (text : List Char) : Fault → Prop
  | malformed {what : Json.Malformation} {place : Nat}
      (h : Json.read text = .error (.malformed what place)) :
      Spoils line text (.malformed line what)
  | tooManyDigits {digits : Nat}
      (h : Json.read text = .error (.tooManyDigits digits)) :
      Spoils line text (.tooManyDigits digits)
  | notObject {v : Value} (h : Json.read text = .ok v)
      (hv : ∀ members, v ≠ .map members) : Spoils line text (.notObject line)
  | refused {members : List (String × Value)} {refusal : Refusal}
      (h : Json.read text = .ok (.map members))
      (hrecord : Record.read (.map members) = .error refusal) :
      Spoils line text (.refused line refusal)

variable {line : Nat} {text : List Char} {fault : Fault}

/-- A line `Holds` a record and is read as it, or a fault `Spoils` it and
reading fails with this fault. -/
theorem readLine_cases (line : Nat) (text : List Char) :
    (∃ d, Holds text d ∧ readLine line text = .ok d)
      ∨ ∃ fault, Spoils line text fault
        ∧ readLine line text = .error fault := by
  unfold readLine
  cases hjson : Json.read text with
  | error failure =>
      cases failure with
      | malformed what place => exact .inr ⟨_, .malformed hjson, rfl⟩
      | tooManyDigits digits => exact .inr ⟨_, .tooManyDigits hjson, rfl⟩
  | ok v =>
      cases v with
      | map members =>
          dsimp only
          cases hrecord : Record.read (.map members) with
          | ok d => exact .inl ⟨d, ⟨members, hjson, hrecord⟩, rfl⟩
          | error refusal => exact .inr ⟨_, .refused hjson hrecord, rfl⟩
      | _ => exact .inr ⟨_, .notObject hjson nofun, rfl⟩

/-- A fault that `Spoils` a line is what `readLine` fails with. -/
theorem Spoils.readLine (h : Spoils line text fault) :
    readLine line text = .error fault := by
  unfold Batch.readLine
  cases h with
  | malformed h => rw [h]
  | tooManyDigits h => rw [h]
  | @notObject v h hv =>
      rw [h]
      cases v with
      | map members => exact absurd rfl (hv members)
      | _ => rfl
  | refused h hrecord =>
      rw [h]
      dsimp only
      rw [hrecord]

/-- A line that `Holds` a record is read as it by `readLine`. -/
theorem Holds.readLine {d : Definition} (h : Holds text d) :
    readLine line text = .ok d := by
  obtain ⟨members, hjson, hrecord⟩ := h
  unfold Batch.readLine
  rw [hjson]
  dsimp only
  rw [hrecord]

/-- A line cannot both be spoilt and hold a record. -/
theorem Spoils.not_holds (h : Spoils line text fault) (d : Definition) :
    ¬ Holds text d := by
  rintro ⟨members, hjson, hrecord⟩
  cases h with
  | malformed h => exact nomatch h.symm.trans hjson
  | tooManyDigits h => exact nomatch h.symm.trans hjson
  | notObject h hv =>
      exact hv members (Except.ok.inj (h.symm.trans hjson))
  | refused h hrefused =>
      cases Except.ok.inj (h.symm.trans hjson)
      exact nomatch hrefused.symm.trans hrecord

/-- A fault that `Spoils` a line names it, unless it is `tooManyDigits`. -/
theorem Spoils.line_cases (h : Spoils line text fault) :
    fault.line? = some line ∨ ∃ digits, fault = .tooManyDigits digits := by
  cases h with
  | tooManyDigits h => exact .inr ⟨_, rfl⟩
  | _ => exact .inl rfl

-- ============================================================ all lines

/-- Each of the lines that `saysSomething` holds one of the definitions, in
order. -/
def Hold (texts : List (List Char)) (ds : List Definition) : Prop :=
  List.Forall₂ Holds (texts.filter saysSomething) ds

/-- Reading stops at the line with number `number`: it `saysSomething` and is
spoilt, and every line before it that does holds a record. What stands on the
lines after it does not matter. The first line has the number `first`, and each
line counts. -/
inductive Stops (first : Nat) : List (List Char) → Nat → Fault → Prop
  | mk {before after : List (List Char)} {text : List Char} {fault : Fault}
      (hbefore : ∀ line ∈ before, saysSomething line = true →
        ∃ d, Holds line d)
      (hspoken : saysSomething text = true)
      (hspoils : Spoils (first + before.length) text fault) :
      Stops first (before ++ text :: after) (first + before.length) fault

/-- A fault that reading `Stops` with names the line, unless it is
`tooManyDigits`. -/
theorem Stops.line_cases {number : Nat} {texts : List (List Char)}
    (h : Stops line texts number fault) :
    fault.line? = some number ∨ ∃ digits, fault = .tooManyDigits digits := by
  cases h with
  | mk _ _ hspoils => exact hspoils.line_cases

/-- If lines `Hold` definitions, each line that `saysSomething` holds one. -/
theorem Hold.of_mem {texts : List (List Char)} {ds : List Definition}
    (h : Hold texts ds) (hmem : text ∈ texts)
    (hspoken : saysSomething text = true) : ∃ d, Holds text d := by
  obtain ⟨d, -, hd⟩ := exists_partner h (List.mem_filter.2 ⟨hmem, hspoken⟩)
  exact ⟨d, hd⟩

/-- Lines at which reading `Stops` do not `Hold` definitions. -/
theorem Stops.not_hold {number : Nat} {texts : List (List Char)}
    (h : Stops line texts number fault) : ¬ ∃ ds, Hold texts ds := by
  rintro ⟨ds, hds⟩
  cases h with
  | mk _ hspoken hspoils =>
      obtain ⟨d, hd⟩ := hds.of_mem
        (List.mem_append_right _ List.mem_cons_self) hspoken
      exact hspoils.not_holds d hd

/-- If reading `Stops` at a later line, it still does with a line in front that
is blank or holds a record. -/
theorem Stops.cons {number : Nat} {texts : List (List Char)}
    (h : Stops (line + 1) texts number fault)
    (hfirst : saysSomething text = true → ∃ d, Holds text d) :
    Stops line (text :: texts) number fault := by
  cases h with
  | @mk before after text' _ hbefore hspoken hspoils =>
      have hnumber : line + 1 + before.length
          = line + (text :: before).length := by
        rw [List.length_cons]
        omega
      rw [hnumber] at hspoils ⊢
      exact .mk (List.forall_mem_cons.2 ⟨hfirst, hbefore⟩) hspoken hspoils

theorem readLines_blank (hspoken : saysSomething text = false)
    (texts : List (List Char)) :
    readLines line (text :: texts) = readLines (line + 1) texts := by
  have hblank : isAllBlank text = true := by
    simpa [saysSomething] using hspoken
  rw [readLines, if_pos hblank]

theorem readLines_cons (hspoken : saysSomething text = true)
    (texts : List (List Char)) :
    readLines line (text :: texts) = (do
      let d ← readLine line text
      let more ← readLines (line + 1) texts
      return d :: more) := by
  have hblank : isAllBlank text = false := by
    simpa [saysSomething] using hspoken
  rw [readLines, if_neg (by rw [hblank]; exact Bool.false_ne_true)]

/-- Lines `Hold` definitions and are read as these, or reading `Stops` with the
fault that `readLines` gives. -/
theorem readLines_cases (texts : List (List Char)) :
    ∀ line, (∃ ds, Hold texts ds ∧ readLines line texts = .ok ds)
      ∨ ∃ number fault, Stops line texts number fault
        ∧ readLines line texts = .error fault := by
  induction texts with
  | nil => exact fun _ => .inl ⟨[], .nil, rfl⟩
  | cons text texts ih =>
      intro line
      cases hspoken : saysSomething text with
      | false =>
          have hnone : saysSomething text = true → ∃ d, Holds text d :=
            fun h => absurd (hspoken.symm.trans h) Bool.false_ne_true
          rw [readLines_blank hspoken]
          rcases ih (line + 1) with ⟨ds, hds, hread⟩ |
            ⟨number, fault, hstops, hread⟩
          · refine .inl ⟨ds, ?_, hread⟩
            unfold Hold
            rw [List.filter_cons_of_neg
              (by rw [hspoken]; exact Bool.false_ne_true)]
            exact hds
          · exact .inr ⟨number, fault, hstops.cons hnone, hread⟩
      | true =>
          rw [readLines_cons hspoken]
          rcases readLine_cases line text
            with ⟨d, hd, hfirst⟩ | ⟨fault, hspoils, hfirst⟩
          · rw [hfirst]
            rcases ih (line + 1)
              with ⟨ds, hds, hread⟩ | ⟨number, fault, hstops, hread⟩
            · refine .inl ⟨d :: ds, ?_, by rw [hread]; rfl⟩
              unfold Hold
              rw [List.filter_cons_of_pos hspoken]
              exact .cons hd hds
            · exact .inr ⟨number, fault, hstops.cons fun _ => ⟨d, hd⟩,
                by rw [hread]; rfl⟩
          · rw [hfirst]
            exact .inr
              ⟨line, fault, @Stops.mk line [] texts _ _ nofun hspoken hspoils,
              rfl⟩

/-- A line `Holds` one record at most. -/
theorem holds_unique : Relator.RightUnique Holds := by
  intro text d d' h h'
  have hread : Batch.readLine 1 text = .ok d := h.readLine
  exact Except.ok.inj (hread.symm.trans h'.readLine)

/-- Lines that `Hold` definitions are read as these by `readLines`. -/
theorem Hold.readLines {texts : List (List Char)} {ds : List Definition}
    (h : Hold texts ds) (line : Nat) : readLines line texts = .ok ds := by
  rcases readLines_cases texts line
    with ⟨ds', hds', hread⟩ | ⟨number, fault, hstops, -⟩
  · rw [hread, holds_unique.forall₂ hds' h]
  · exact absurd ⟨ds, h⟩ hstops.not_hold

/-- Where reading `Stops` with a fault, `readLines` fails with it. -/
theorem Stops.readLines {number : Nat} {texts : List (List Char)}
    (h : Stops line texts number fault) :
    readLines line texts = .error fault := by
  cases h with
  | @mk before after text _ hbefore hspoken hspoils =>
      induction before generalizing line with
      | nil =>
          have hspoils : Spoils line text fault := hspoils
          show Batch.readLines line (text :: after) = _
          rw [readLines_cons hspoken, hspoils.readLine]
          rfl
      | cons first before ih =>
          obtain ⟨hfirst, hbefore⟩ := List.forall_mem_cons.1 hbefore
          have hnumber : line + (first :: before).length
              = line + 1 + before.length := by
            rw [List.length_cons]
            omega
          rw [hnumber] at hspoils
          have hrest := ih hbefore hspoils
          show Batch.readLines line (first :: (before ++ text :: after)) = _
          cases hspoken' : saysSomething first with
          | false => rw [readLines_blank hspoken', hrest]
          | true =>
              obtain ⟨d, hd⟩ := hfirst hspoken'
              rw [readLines_cons hspoken', hd.readLine, hrest]
              rfl

end Batch

-- =========================================================== registries

namespace Registry

/-- Either the lines of a batch `Hold` definitions and `loadBatch` takes them
all, or reading `Stops` and `loadBatch` fails with the fault. -/
theorem loadBatch_cases (r : Registry) (text : List Char) :
    (∃ ds, Batch.Hold (Text.lines text) ds
        ∧ r.loadBatch text = .ok (r.take ds))
      ∨ ∃ number fault, Batch.Stops 1 (Text.lines text) number fault
        ∧ r.loadBatch text = .error fault := by
  unfold loadBatch Batch.read
  rcases Batch.readLines_cases (Text.lines text) 1
    with ⟨ds, hds, hread⟩ | ⟨number, fault, hstops, hread⟩
  · exact .inl ⟨ds, hds, by rw [hread]; rfl⟩
  · exact .inr ⟨number, fault, hstops, by rw [hread]; rfl⟩

end Registry

-- ================================================================= runs

namespace Script

/-- A load is all or nothing. Either every line that says something holds a
record, and then the ids come back in order, repeated ones too, and the
definitions are registered one after another; or not every line holds one,
and then the load fails with what is wrong with the first that does not
and names it, and nothing is left behind. -/
theorem run_loadBatch_all_or_nothing (text : String) (s : Stage) :
    (∃ ds, Batch.Hold (Text.lines text.toList) ds
        ∧ (run (.loadBatch text) s).1 = .ok (.names (ds.map (·.id)))
        ∧ ∃ entries journal, (run (.loadBatch text) s).2
          = { s with
              engine := { s.engine with
                registry := ds.foldl Registry.register s.engine.registry }
              entries
              journal })
      ∨ ∃ number fault, (¬ ∃ ds, Batch.Hold (Text.lines text.toList) ds)
        ∧ Batch.Stops 1 (Text.lines text.toList) number fault
        ∧ (fault.line? = some number ∨ ∃ digits, fault = .tooManyDigits digits)
        ∧ (run (.loadBatch text) s).1 = .error (.load (.batch fault))
        ∧ ∃ journal, (run (.loadBatch text) s).2 = { s with journal } := by
  have hrun : run (.loadBatch text) s
      = journalled (fun _ => takeLoaded
          ((s.engine.registry.loadBatch text.toList).mapError .batch))
        (.loadBatch text) s := by
    rw [run_eq]
    rfl
  rw [hrun]
  rcases s.engine.registry.loadBatch_cases text.toList
    with ⟨ds, hds, hload⟩ | ⟨number, fault, hstops, hload⟩
  · left
    rw [hload]
    exact ⟨ds, hds, rfl, _, _, rfl⟩
  · right
    rw [hload]
    exact ⟨number, fault, hstops.not_hold, hstops, hstops.line_cases, rfl, _,
      rfl⟩

end Script

-- ================================================================ files

/-- Reading the lines of the text `Stops` with `tooManyDigits`. -/
def Batch.Overlong (text : List Char) : Prop :=
  ∃ number digits,
    Stops 1 (Text.lines text) number (.tooManyDigits digits)

namespace Registry

/-- What `loadBatch` gives is a success, or names the first bad line, just if
the text is not `Overlong`. -/
theorem loadBatch_names_line_iff (r : Registry) (text : List Char) :
    ((∃ loaded, r.loadBatch text = .ok loaded)
        ∨ ∃ fault number, r.loadBatch text = .error fault
          ∧ fault.line? = some number
          ∧ Batch.Stops 1 (Text.lines text) number fault)
      ↔ ¬ Batch.Overlong text := by
  constructor
  · rintro hload ⟨number, digits, hstops⟩
    have hfails : r.loadBatch text = .error (.tooManyDigits digits) := by
      unfold loadBatch Batch.read
      rw [hstops.readLines]
      rfl
    rw [hfails] at hload
    rcases hload with ⟨loaded, hload⟩ | ⟨fault, line, hload, hline, -⟩
    · cases hload
    · cases hload
      cases hline
  · intro hshort
    rcases r.loadBatch_cases text
      with ⟨ds, -, hload⟩ | ⟨number, fault, hstops, hload⟩
    · exact .inl ⟨_, hload⟩
    · rcases hstops.line_cases with hline | ⟨digits, rfl⟩
      · exact .inr ⟨fault, number, hload, hline, hstops⟩
      · exact absurd ⟨number, digits, hstops⟩ hshort

end Registry

namespace CommandLine

/-- Loading succeeded, or failed with a fault that `isLoadError`. -/
def DealtWith (result : Except LoadFault Registry.Loaded) : Prop :=
  ∀ fault, result = .error fault → isLoadError fault = true

theorem isLoadError_of_line {fault : Batch.Fault} {number : Nat}
    (h : fault.line? = some number) : isLoadError (.batch fault) = true := by
  cases fault with
  | tooManyDigits digits => cases h
  | _ => rfl

/-- A batch is `DealtWith` just if it is not `Overlong`. -/
theorem dealtWith_loadBatch_iff (r : Registry) (text : List Char) :
    DealtWith ((r.loadBatch text).mapError .batch)
      ↔ ¬ Batch.Overlong text := by
  rw [← r.loadBatch_names_line_iff text]
  constructor
  · intro hdealt
    rcases r.loadBatch_cases text
      with ⟨ds, -, hload⟩ | ⟨number, fault, hstops, hload⟩
    · exact .inl ⟨_, hload⟩
    · rw [hload] at hdealt
      rcases hstops.line_cases with hline | ⟨digits, rfl⟩
      · exact .inr ⟨fault, number, hload, hline, hstops⟩
      · exact absurd (hdealt _ rfl) Bool.false_ne_true
  · rintro (⟨loaded, hload⟩ | ⟨fault, number, hload, hline, -⟩)
    · rw [hload]
      exact nofun
    · rw [hload]
      intro fault' hfault
      cases hfault
      exact isLoadError_of_line hline

variable {disk : Disk} {path : Path} {bytes : List UInt8}

/-- A file is read by decoding its bytes. -/
theorem readText_of_file (h : disk.entry path = .ok (.file bytes)) :
    disk.readText path = Disk.textOf .utf8 bytes := by
  unfold Disk.readText
  rw [h]
  rfl

/-- A file is `DealtWith` just if its bytes can be decoded and the text is not
`Overlong`. -/
theorem dealtWith_loadFile_iff (r : Registry)
    (h : disk.entry path = .ok (.file bytes)) :
    DealtWith (r.loadFile disk path)
      ↔ ∃ text, Text.Utf8.decode bytes = .ok text
        ∧ ¬ Batch.Overlong (Text.unifyLineEnds text) := by
  unfold Registry.loadFile
  rw [readText_of_file h, Disk.textOf, Text.Encoding.decode]
  cases Text.Utf8.decode bytes with
  | error fault =>
      constructor
      · exact fun hdealt => absurd (hdealt _ rfl) Bool.false_ne_true
      · rintro ⟨text, htext, -⟩
        cases htext
  | ok text =>
      show DealtWith
        ((r.loadBatch (Text.unifyLineEnds text)).mapError .batch) ↔ _
      rw [dealtWith_loadBatch_iff]
      constructor
      · exact fun hshort => ⟨text, rfl, hshort⟩
      · rintro ⟨text', htext, hshort⟩
        cases htext
        exact hshort

-- ========================================================== validating

/-- Sequencing after a program that came to `a`. -/
theorem bind_of_ok {α β : Type} {m : Program α} {k : α → Program β}
    {c c' : Console} {a : α} (h : m c = (.ok a, c')) :
    (m >>= k) c = k a c' := by
  show ExceptT.bindCont k (m c).1 (m c).2 = _
  rw [h]
  rfl

/-- Sequencing after `get`. -/
theorem get_bind_apply {α : Type} (k : Console → Program α) (c : Console) :
    (get >>= k) c = k c c := rfl

/-- If `f` succeeds for each item, `forM f` succeeds. -/
theorem forM_ok {β : Type} {f : β → Program Unit}
    (hf : ∀ b c, ∃ c', f b c = (.ok (), c')) (bs : List β) :
    ∀ c, ∃ c', bs.forM f c = (.ok (), c') := by
  induction bs with
  | nil => exact fun c => ⟨c, rfl⟩
  | cons b rest ih =>
      intro c
      obtain ⟨c₁, hfirst⟩ := hf b c
      obtain ⟨c₂, hrest⟩ := ih c₁
      refine ⟨c₂, ?_⟩
      show (f b >>= fun _ => rest.forM f) c = _
      rw [bind_of_ok hfirst, hrest]

theorem print_ok (line : String) (c : Console) :
    ∃ c', Program.print line c = (.ok (), c') := ⟨_, rfl⟩

theorem note_ok (entry : Log.Entry) (c : Console) :
    ∃ c', Program.note entry c = (.ok (), c') :=
  forM_ok (fun _ _ => ⟨_, rfl⟩) (c.log.line? c.now entry).toList c

/-- A file that cannot be loaded is the last one that `loadAll` comes to. -/
theorem loadAll_of_error {r : Registry} {path : Path} {c : Console}
    {fault : LoadFault} (h : r.loadFile c.disk path = .error fault)
    (rest : List (Option Path)) :
    loadAll r (some path :: rest) c = (.ok (r, some (path, fault)), c) := by
  rw [loadAll, get_bind_apply, h]
  rfl

/-- Behind a file that was loaded, `loadAll` goes on with its registry. -/
theorem loadAll_of_ok {r : Registry} {path : Path} {c : Console}
    {loaded : Registry.Loaded} (h : r.loadFile c.disk path = .ok loaded)
    (rest : List (Option Path)) :
    ∃ c', loadAll r (some path :: rest) c
      = loadAll loaded.registry rest c' := by
  obtain ⟨c', hnotes⟩ := forM_ok note_ok loaded.entries c
  rw [loadAll, get_bind_apply, h]
  exact ⟨c', bind_of_ok hnotes⟩

/-- One file is given to `validate`: it ends with an exit code just if the file
is `DealtWith`. -/
theorem validate_ends_iff (path : Path) (strict : Bool) (c : Console) :
    (∃ code, (validate [path] strict c).1 = .ok code)
      ↔ DealtWith (({} : Registry).loadFile c.disk path) := by
  unfold validate
  cases hload : ({} : Registry).loadFile c.disk path with
  | error fault =>
      rw [List.map_singleton, bind_of_ok (loadAll_of_error hload [])]
      dsimp only
      cases hkind : isLoadError fault with
      | true =>
          rw [if_pos rfl]
          refine ⟨fun _ fault' hfault => ?_, fun _ => ⟨1, rfl⟩⟩
          cases hfault
          exact hkind
      | false =>
          rw [if_neg Bool.false_ne_true]
          refine ⟨?_, fun hdealt => ?_⟩
          · rintro ⟨code, hcode⟩
            cases hcode
          · exact absurd (hkind.symm.trans (hdealt fault rfl))
              Bool.false_ne_true
  | ok loaded =>
      obtain ⟨c', hall⟩ := loadAll_of_ok hload []
      have hall : loadAll {} [some path] c
          = (.ok (loaded.registry, none), c') := hall
      obtain ⟨c'', hprint⟩ := forM_ok print_ok
        (loaded.registry.definitions.values.flatMap report) c'
      rw [List.map_singleton, bind_of_ok hall]
      dsimp only
      rw [bind_of_ok hprint]
      exact ⟨fun _ => nofun, fun _ => ⟨_, rfl⟩⟩

/-- The bytes can be decoded, and the text is not `Overlong`. -/
def Legible (bytes : List UInt8) : Prop :=
  ∃ text, Text.Utf8.decode bytes = .ok text
    ∧ ¬ Batch.Overlong (Text.unifyLineEnds text)

/-- Loading fails with a load error or not at all, unless a number has too many
digits or the bytes are no text. A batch is loaded, or its first bad line is
named, if and only if it is not `Overlong`; a file is `DealtWith` if and only
if its bytes are `Legible`; and just then validating the file ends with an exit
code. -/
theorem loads_or_load_error_iff (r : Registry) (text : List Char)
    {disk : Disk} {path : Path} {bytes : List UInt8}
    (hfile : disk.entry path = .ok (.file bytes)) (strict : Bool)
    {c : Console} (hc : c.disk = disk) :
    (((∃ loaded, r.loadBatch text = .ok loaded)
        ∨ ∃ fault number, r.loadBatch text = .error fault
          ∧ fault.line? = some number
          ∧ Batch.Stops 1 (Text.lines text) number fault)
      ↔ ¬ Batch.Overlong text)
    ∧ (DealtWith (r.loadFile disk path) ↔ Legible bytes)
    ∧ ((∃ code, (validate [path] strict c).1 = .ok code)
      ↔ Legible bytes) := by
  refine ⟨r.loadBatch_names_line_iff text, dealtWith_loadFile_iff r hfile, ?_⟩
  subst hc
  rw [validate_ends_iff]
  exact dealtWith_loadFile_iff _ hfile

/-- Two files: `empty.jsonl` holds a record without members, and `marked.jsonl`
a byte order mark of UTF-16. -/
def twoFiles : FileTree :=
  [(["empty.jsonl"], [0x7b, 0x7d]), (["marked.jsonl"], [0xff, 0xfe])]

/-- A console with `twoFiles`. -/
def twoFilesConsole : Console where
  environment := default
  disk := twoFiles.disk
  now := .zero false

/-- Of `twoFiles`, `empty.jsonl` is dealt with and `marked.jsonl` is not. -/
theorem loads_or_load_error_twoFiles :
    (∃ code, (validate [.ofText "empty.jsonl"] false twoFilesConsole).1
        = .ok code)
      ∧ ¬ ∃ code, (validate [.ofText "marked.jsonl"] false twoFilesConsole).1
        = .ok code := by
  have hempty : twoFiles.disk.entry (.ofText "empty.jsonl")
      = .ok (.file [0x7b, 0x7d]) := by decide +kernel
  have hmarked : twoFiles.disk.entry (.ofText "marked.jsonl")
      = .ok (.file [0xff, 0xfe]) := by decide +kernel
  constructor
  · have hends := loads_or_load_error_iff {} [] hempty false
      (c := twoFilesConsole) rfl
    refine hends.2.2.2 ⟨['\x7b', '\x7d'], by decide +kernel, ?_⟩
    rintro ⟨number, digits, hstops⟩
    have hrefused : (Batch.readLines 1
        (Text.lines (Text.unifyLineEnds ['\x7b', '\x7d']))).mapError
          Batch.Fault.line? = .error (some 1) := by decide +kernel
    rw [hstops.readLines] at hrefused
    cases hrefused
  · have hends := loads_or_load_error_iff {} [] hmarked false
      (c := twoFilesConsole) rfl
    refine fun hcode => absurd (hends.2.2.1 hcode) ?_
    rintro ⟨text, htext, -⟩
    have hfails : (Text.Utf8.decode [0xff, 0xfe]).isOk = false := by
      decide +kernel
    rw [htext] at hfails
    cases hfails

/-- A file whose bytes are no text, and a batch that is a number with too
many digits: neither is loaded, neither is a load error, and no line is
named. -/
theorem unreadable_escapes :
    (∃ fault, (({} : Registry).loadFile twoFiles.disk
          (.ofText "marked.jsonl")).map (·.ids) = .error fault
        ∧ isLoadError fault = false)
      ∧ ∃ fault, (({} : Registry).loadBatch
          (List.replicate 4301 '1')).map (·.ids) = .error fault
        ∧ isLoadError (.batch fault) = false ∧ fault.line? = none :=
  ⟨⟨.unread (.undecodable (.undecodable ⟨"utf-8", 0, [0xff], .invalidStart⟩)),
      by decide +kernel, rfl⟩,
    .tooManyDigits 4301, by decide +kernel, rfl, rfl⟩

end CommandLine
end Colloquy
