/-
Batches written and read back. Records under one another are read back one
by one, unless a text inside a record holds a line end that JSON leaves as
it is. There are three of them beyond the control characters, the next line
and the two separators, and each of them cuts a record in two.

So a batch reads as what was written just if no such character is in it
(`read_write_iff`). Without one every line is a record, and reading takes
the lines one by one. With one there are more lines that say something than
there were definitions, and reading gives one definition for each.
-/
import Colloquy.Batch
import Colloquy.Proofs.Json.Characters
import Colloquy.Proofs.Record.Codec
import Colloquy.Proofs.Text.Lines

namespace Colloquy

-- ========================================================= plain records

/-- Every `maxTurns` of a definition has at most `Json.maxDigits` digits, so
that it can be read as a number. -/
def Definition.Sayable (d : Definition) : Prop :=
  ∀ entry ∈ d.states.entries, ∀ n ∈ entry.2.maxTurns,
    n.natAbs < 10 ^ Json.maxDigits

namespace Record

theorem names_member?_sublist (f : Field) (v : Option Value) :
    ((member? f v).map Prod.fst).Sublist [f.wire] := by
  cases v with
  | none => exact List.nil_sublist _
  | some v => exact List.Sublist.refl _

theorem plain_member? {f : Field} {v : Option Value}
    (h : ∀ w, v = some w → w.Plain) :
    ∀ member ∈ member? f v, member.2.Plain := by
  cases v with
  | none => exact nofun
  | some v => exact List.forall_mem_singleton.2 (h v rfl)

theorem plain_ofPresentation (p : Presentation) :
    (ofPresentation p).Plain := by
  refine .map (show ([labelField.wire, hintField.wire,
    bubbleClassField.wire] : List String).Nodup by decide) ?_
  simp [Value.Plain.string]

theorem plain_catalog {α : Type} {f : String → α → Value} {c : Catalog α}
    (h : ∀ entry ∈ c.entries, (f entry.1 entry.2).Plain) :
    (Value.map (c.map f).entries).Plain :=
  .map (c.map f).nodup (List.forall_mem_map.2 h)

theorem plain_ofState {s : State}
    (h : ∀ n ∈ s.maxTurns, n.natAbs < 10 ^ Json.maxDigits) :
    (ofState s).Plain := by
  refine .map ?_ ?_
  · simp only [List.map_append]
    refine List.Nodup.sublist (((List.Sublist.refl _).append
      (names_member?_sublist ..)).append (names_member?_sublist ..)
      |>.append (names_member?_sublist ..)) ?_
    show ([idField.wire, onEnterField.wire, transitionsField.wire,
      handlerField.wire, maxTurnsField.wire,
      maxTurnsTargetField.wire] : List String).Nodup
    decide
  · simp only [List.forall_mem_append]
    refine ⟨⟨⟨?_, plain_member? ?_⟩, plain_member? ?_⟩, plain_member? ?_⟩
    · simp only [List.forall_mem_cons]
      exact ⟨.string _, .string _, plain_catalog fun _ _ => .string _, nofun⟩
    · intro w hw
      obtain ⟨name, -, rfl⟩ := Option.map_eq_some_iff.1 hw
      exact .string name
    · intro w hw
      obtain ⟨n, hn, rfl⟩ := Option.map_eq_some_iff.1 hw
      exact .int (h n hn)
    · intro w hw
      split at hw
      · cases hw
      · cases hw
        exact .string _

theorem plain_ofDefinition {d : Definition} (h : d.Sayable) :
    (ofDefinition d).Plain := by
  refine .map ?_ ?_
  · rw [List.map_append]
    refine List.Nodup.sublist ((List.Sublist.refl _).append
      (names_member?_sublist ..)) ?_
    show ([idField.wire, triggerField.wire, initialField.wire,
      exitPhrasesField.wire, exitMessageField.wire, statesField.wire,
      presentationField.wire] : List String).Nodup
    decide
  · rw [List.forall_mem_append]
    refine ⟨?_, plain_member? ?_⟩
    · simp only [List.forall_mem_cons]
      exact ⟨.string _, .string _, .string _,
        .list (List.forall_mem_map.2 fun _ _ => .string _), .string _,
        plain_catalog fun entry hentry =>
          plain_ofState (h entry hentry), nofun⟩
    · intro w hw
      obtain ⟨p, -, rfl⟩ := Option.map_eq_some_iff.1 hw
      exact plain_ofPresentation p

end Record

namespace Batch

open Text

-- =============================================================== writing

/-- The batch of definitions: the JSON texts of their records (`Record.write`),
joined by line feeds. -/
def write (ds : List Definition) : Except Refusal String := do
  let records ← ds.mapM Record.write
  return "\n".intercalate (records.map Json.write)

/-- The characters of the JSON text of a definition's record. -/
def recordChars (d : Definition) : List Char :=
  Json.chars (Record.ofDefinition d)

theorem mapM_write {ds : List Definition} (h : ∀ d ∈ ds, d.Writable) :
    ds.mapM Record.write = .ok (ds.map Record.ofDefinition) := by
  induction ds with
  | nil => rfl
  | cons d ds ih =>
      obtain ⟨hd, hmore⟩ := List.forall_mem_cons.1 h
      rw [List.mapM_cons, (Record.read_write hd).1, ih hmore]
      rfl

theorem write_eq_ok {ds : List Definition} (h : ∀ d ∈ ds, d.Writable) :
    ∃ text, write ds = .ok text
      ∧ text.toList = ['\n'].intercalate (ds.map recordChars) := by
  refine ⟨_, by rw [write, mapM_write h]; rfl, ?_⟩
  rw [String.toList_intercalate, List.map_map, List.map_map]
  rfl

/-- The line ends that JSON text leaves unescaped: U+0085, U+2028 and U+2029.
-/
def looseEnds : List Char := ['\u0085', '\u2028', '\u2029']

theorem isLineEnd_of_mem_looseEnds {c : Char} (h : c ∈ looseEnds) :
    isLineEnd c = true := by
  have hall : looseEnds.all isLineEnd = true := by decide
  exact List.all_eq_true.1 hall c h

theorem mem_looseEnds {c : Char} (hvisible : Json.isVisible c = true)
    (hend : isLineEnd c = true) : c ∈ looseEnds := by
  have hcode : c.toNat = 0x85 ∨ c.toNat = 0x2028 ∨ c.toNat = 0x2029 := by
    have hvisible : 0x20 ≤ c.toNat := of_decide_eq_true hvisible
    simp [isLineEnd, lineEnds, Ranges.covers] at hend
    omega
  rw [← Char.ofNat_toNat c]
  rcases hcode with h | h | h <;> rw [h] <;> decide

section Records

variable {d : Definition} (hsay : d.Sayable)
include hsay

theorem isVisible_of_mem_recordChars :
    ∀ c ∈ recordChars d, Json.isVisible c = true :=
  List.all_eq_true.1
    (Json.all_isVisible_chars (Record.plain_ofDefinition hsay))

omit hsay in
theorem recordChars_braces :
    ∃ inner, recordChars d = '\x7b' :: (inner ++ ['\x7d']) :=
  ⟨_, Json.chars_map _⟩

theorem stackable_recordChars : Stackable (recordChars d) := by
  refine ⟨?_, ?_⟩
  · intro hreturn
    have hvisible := isVisible_of_mem_recordChars hsay _ hreturn
    revert hvisible
    decide
  · obtain ⟨inner, hinner⟩ := recordChars_braces (d := d)
    exact ⟨'\x7b' :: inner, '\x7d', hinner, by decide⟩

/-- A record without any of the `looseEnds` is one line. -/
theorem lines_recordChars (h : ∀ c ∈ recordChars d, c ∉ looseEnds) :
    lines (recordChars d) = [recordChars d] := by
  refine lines_of_no_end (stackable_recordChars hsay).ne_nil fun c hc => ?_
  rw [← Bool.not_eq_true]
  exact fun hend =>
    h c hc (mem_looseEnds (isVisible_of_mem_recordChars hsay c hc) hend)

/-- A record with one of the `looseEnds` says something on two lines at least.
-/
theorem two_le_countP_recordChars (h : ∃ c ∈ recordChars d, c ∈ looseEnds) :
    2 ≤ (lines (recordChars d)).countP saysSomething := by
  obtain ⟨inner, hinner⟩ := recordChars_braces (d := d)
  obtain ⟨c, hc, hloose⟩ := h
  have hstack := stackable_recordChars hsay
  rw [hinner] at hc hstack ⊢
  refine hstack.two_le_countP_lines (by decide)
    ⟨c, ?_, isLineEnd_of_mem_looseEnds hloose⟩
  rcases List.mem_cons.1 hc with rfl | hc
  · exact absurd hloose (by decide)
  · exact hc

/-- A line of `recordChars` reads as the definition, if it is canonical. -/
theorem readLine_recordChars (hd : d.Canonical) (line : Nat) :
    readLine line (recordChars d) = .ok d := by
  have hjson : Json.read (recordChars d) = .ok (Record.ofDefinition d) :=
    Json.read_write (Record.plain_ofDefinition hsay)
  have hrecord := (Record.read_write hd.writable).2
  rw [Definition.respelt_eq hd] at hrecord
  obtain ⟨ms, hms, -⟩ := Record.ofDefinition_members d
  rw [hms] at hjson hrecord
  unfold readLine
  rw [hjson]
  simp only [hrecord]

end Records

-- =============================================================== reading

/-- Lines of `recordChars` read as the definitions, in order. -/
theorem readLines_recordChars {ds : List Definition}
    (hcanonical : ∀ d ∈ ds, d.Canonical) (hsay : ∀ d ∈ ds, d.Sayable) :
    ∀ line, readLines line (ds.map recordChars) = .ok ds := by
  induction ds with
  | nil => exact fun _ => rfl
  | cons d ds ih =>
      intro line
      obtain ⟨hfirst, hmore⟩ := List.forall_mem_cons.1 hcanonical
      obtain ⟨hsay, hsayMore⟩ := List.forall_mem_cons.1 hsay
      have hd := readLine_recordChars hsay hfirst line
      have hds := ih hmore hsayMore (line + 1)
      have hsays : isAllBlank (recordChars d) = false := by
        obtain ⟨inner, hinner⟩ := recordChars_braces (d := d)
        rw [hinner]
        rfl
      rw [List.map_cons, readLines, hsays, if_neg Bool.false_ne_true, hd, hds]
      rfl

/-- What `readLines` gives has as many definitions as there are lines that
`saysSomething` holds of. -/
theorem length_of_readLines {ds : List Definition} {texts : List (List Char)} :
    ∀ {line}, readLines line texts = .ok ds →
      ds.length = texts.countP saysSomething := by
  induction texts generalizing ds with
  | nil =>
      intro line h
      cases h
      rfl
  | cons text texts ih =>
      intro line h
      rw [readLines] at h
      cases hblank : isAllBlank text with
      | true =>
          rw [hblank, if_pos rfl] at h
          rw [List.countP_cons_of_neg (by simp [saysSomething, hblank])]
          exact ih h
      | false =>
          rw [hblank, if_neg Bool.false_ne_true] at h
          rw [List.countP_cons_of_pos (by simp [saysSomething, hblank])]
          cases hfirst : readLine line text with
          | error fault =>
              rw [hfirst] at h
              cases h
          | ok d =>
              cases hmore : readLines (line + 1) texts with
              | error fault =>
                  rw [hfirst, hmore] at h
                  cases h
              | ok more =>
                  rw [hfirst, hmore] at h
                  cases h
                  rw [List.length_cons, ih hmore]

/-- A batch has none of the `looseEnds` just if none of its records has. -/
theorem clean_iff {ds : List Definition} {text : String}
    (htext : text.toList = ['\n'].intercalate (ds.map recordChars)) :
    (∀ c ∈ text.toList, c ∉ looseEnds)
      ↔ ∀ d ∈ ds, ∀ c ∈ recordChars d, c ∉ looseEnds := by
  have hne : ∀ {c}, c ∈ looseEnds → c ≠ '\n' := by
    rintro c hmem rfl
    exact absurd hmem (by decide)
  rw [htext]
  constructor
  · intro h d hd c hc hmem
    exact h c ((mem_stacked (hne hmem)).2 ⟨_, List.mem_map_of_mem hd, hc⟩) hmem
  · intro h c hc hmem
    obtain ⟨chars, hchars, hin⟩ := (mem_stacked (hne hmem)).1 hc
    obtain ⟨d, hd, rfl⟩ := List.mem_map.1 hchars
    exact h d hd c hin hmem

theorem lines_of_clean {ds : List Definition} (hsay : ∀ d ∈ ds, d.Sayable)
    (h : ∀ d ∈ ds, ∀ c ∈ recordChars d, c ∉ looseEnds) :
    (ds.map recordChars).flatMap lines = ds.map recordChars := by
  rw [List.flatMap_map, List.map_eq_flatMap]
  exact List.flatMap_congr fun d hd => lines_recordChars (hsay d hd) (h d hd)

/-- Reading undoes writing just if no line end is loose in the records.
Definitions that were read, and whose caps JSON can say, are written; and what
`write` makes of them reads as the definitions, in order, if and only if it
holds none of the `looseEnds`. -/
theorem read_write_iff {ds : List Definition}
    (hread : ∀ d ∈ ds, ∃ v, Record.read v = .ok d)
    (hsay : ∀ d ∈ ds, d.Sayable) :
    ∃ text, write ds = .ok text
      ∧ (read text.toList = .ok ds ↔ ∀ c ∈ text.toList, c ∉ looseEnds) := by
  have hcanonical : ∀ d ∈ ds, d.Canonical := by
    intro d hd
    obtain ⟨v, hv⟩ := hread d hd
    exact Record.canonical_of_read hv
  obtain ⟨text, hwrite, htext⟩ := write_eq_ok fun d hd =>
    (hcanonical d hd).writable
  have hstack : ∀ chars ∈ ds.map recordChars, Stackable chars :=
    List.forall_mem_map.2 fun d hd => stackable_recordChars (hsay d hd)
  have hlines : lines text.toList = (ds.map recordChars).flatMap lines := by
    rw [htext, lines_stacked hstack]
  refine ⟨text, hwrite, ?_⟩
  rw [clean_iff htext]
  constructor
  · -- a definition for each line, and a line too many for the definitions
    intro hback d hd c hc hmem
    have hcount := length_of_readLines hback
    have hmore := length_lt_countP_lines hstack ⟨recordChars d,
      List.mem_map_of_mem hd,
      two_le_countP_recordChars (hsay d hd) ⟨c, hc, hmem⟩⟩
    rw [hlines] at hcount
    rw [List.length_map] at hmore
    omega
  · intro h
    unfold read
    rw [hlines, lines_of_clean hsay h]
    exact readLines_recordChars hcanonical hsay 1

/-- A workflow of one state, with `message` at its end. -/
def closing (message : String) : Definition where
  id := "one"
  trigger := "start"
  initial := "a"
  states := .ofList [("a", { id := "a", onEnter := "" })]
  exitMessage := message

theorem write_closing (message : String) :
    ∃ text, write [closing message] = .ok text
      ∧ text.toList = recordChars (closing message) := by
  have hread : Record.read (Record.ofDefinition (closing message))
      = .ok (closing message) := rfl
  obtain ⟨text, hwrite, htext⟩ := @write_eq_ok [closing message]
    (List.forall_mem_singleton.2 (Record.canonical_of_read hread).writable)
  refine ⟨text, hwrite, ?_⟩
  rw [htext]
  simp

/-- With a plain message `closing` reads as it was written; with a line
separator in the message it does not. -/
theorem read_write_closing :
    (∃ text, write [closing "Bye."] = .ok text
      ∧ read text.toList = .ok [closing "Bye."])
    ∧ ∃ text, write [closing "Good\u2028bye."] = .ok text
      ∧ read text.toList ≠ .ok [closing "Good\u2028bye."] := by
  have hback : ∀ message, ∃ text, write [closing message] = .ok text
      ∧ (read text.toList = .ok [closing message]
        ↔ ∀ c ∈ recordChars (closing message), c ∉ looseEnds) := by
    intro message
    obtain ⟨text, hwrite, hback⟩ := @read_write_iff [closing message]
      (List.forall_mem_singleton.2
        ⟨Record.ofDefinition (closing message), rfl⟩)
      (List.forall_mem_singleton.2 (List.forall_mem_singleton.2 nofun))
    obtain ⟨text', hwrite', htext⟩ := write_closing message
    obtain rfl : text = text' := Except.ok.inj (hwrite.symm.trans hwrite')
    refine ⟨text, hwrite, ?_⟩
    rw [htext] at hback ⊢
    exact hback
  constructor
  · obtain ⟨text, hwrite, hback⟩ := hback "Bye."
    have hclean : (recordChars (closing "Bye.")).any looseEnds.contains
        = false := by
      rw [recordChars, Record.ofDefinition, Json.chars_map]
      decide +kernel
    rw [List.any_eq_false] at hclean
    refine ⟨text, hwrite, hback.2 fun c hc hmem => ?_⟩
    exact hclean c hc (List.contains_iff_mem.2 hmem)
  · obtain ⟨text, hwrite, hback⟩ := hback "Good\u2028bye."
    have hloose : (recordChars (closing "Good\u2028bye.")).any
        looseEnds.contains = true := by
      rw [recordChars, Record.ofDefinition, Json.chars_map]
      decide +kernel
    obtain ⟨c, hc, hmem⟩ := List.any_eq_true.1 hloose
    exact ⟨text, hwrite, fun h =>
      hback.1 h c hc (List.contains_iff_mem.1 hmem)⟩

/-- A line separator in a message cuts its record in two, and the first of
the two lines ends inside the message. -/
theorem separator_unterminated :
    (∃ v, Record.read v = .ok (closing "Good\u2028bye."))
    ∧ ∃ text, write [closing "Good\u2028bye."] = .ok text
      ∧ read text.toList = .error (.malformed 1 .unterminatedString) := by
  obtain ⟨text, hwrite, htext⟩ := write_closing "Good\u2028bye."
  refine ⟨⟨Record.ofDefinition (closing "Good\u2028bye."), rfl⟩, text, hwrite,
    ?_⟩
  rw [htext, recordChars, Record.ofDefinition, Json.chars_map]
  decide +kernel

end Batch
end Colloquy
