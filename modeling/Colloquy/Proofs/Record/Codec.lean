/-
Records round-trip exactly on their image. Writing a definition and reading
it again gives back the definition with every target spelt out and read
anew (`Definition.respelt`), and that is the definition itself just if its
targets are canonical: an exit without a state, or a state whose key holds
no colon and is not the word for the way out. Whatever is read is
canonical, so reading, writing and reading again is the same as reading.

Writing refuses what reading would refuse, a state under another key than
its id or a negative cap, and nothing else; so the theorems come in the
order in which a definition is built, states and then definitions, from
that of targets (`Target.parse_wire_iff`).
-/
import Colloquy.Proofs.Record.Checks
import Colloquy.Proofs.Target
import Colloquy.Record

namespace Colloquy

-- ================================================================ states

namespace State

/-- A state whose `maxTurns`, if there is one, is not negative. -/
def CapSound (s : State) : Prop := ∀ n, s.maxTurns = some n → 0 ≤ n

/-- A state that is `CapSound` and has canonical targets. -/
structure Canonical (s : State) : Prop where
  cap : s.CapSound
  transitions : ∀ entry ∈ s.transitions.entries, entry.2.Canonical
  maxTurnsTarget : s.maxTurnsTarget.Canonical

/-- The state with every target written (`Target.wire`) and parsed again. -/
def respelt (s : State) : State :=
  { s with
    transitions := s.transitions.map fun _ t => .parse t.wire
    maxTurnsTarget := .parse s.maxTurnsTarget.wire }

end State

theorem State.respelt_eq {s : State} (h : s.Canonical) : s.respelt = s := by
  have htransitions : (s.transitions.map fun _ t => Target.parse t.wire)
      = s.transitions :=
    Catalog.map_eq_self fun entry hentry =>
      Target.parse_wire (h.transitions entry hentry)
  unfold respelt
  rw [htransitions, Target.parse_wire h.maxTurnsTarget]

namespace Record

/-- What `member?` writes is found under the field's wire name. -/
theorem lookup_member? (f : Field) (v : Option Value) (name : String) :
    (member? f v).lookup name = if name = f.wire then v else none := by
  unfold member?
  cases v with
  | none => simp
  | some v =>
      by_cases h : name = f.wire
      · simp [h]
      · simp [List.lookup_cons, h, beq_false_of_ne h]

/-- The wire text of a target is read as the target parsed from it. -/
theorem target_wire (t : Target) :
    target (.string t.wire) = .accepted (.parse t.wire) := rfl

/-- The members that `ofState` writes, by their names. -/
theorem ofState_members (s : State) :
    ∃ ms, ofState s = .map ms
      ∧ ms.lookup idField.wire = some (.string s.id)
      ∧ ms.lookup onEnterField.wire = some (.string s.onEnter)
      ∧ ms.lookup transitionsField.wire
        = some
          (.map (s.transitions.map fun _ t => Value.string t.wire).entries)
      ∧ ms.lookup handlerField.wire = s.handler.map .string
      ∧ ms.lookup maxTurnsField.wire = s.maxTurns.map .int
      ∧ ms.lookup maxTurnsField.plain = none
      ∧ ms.lookup maxTurnsTargetField.wire
        = (if s.maxTurnsTarget = .exit then none
          else some (.string s.maxTurnsTarget.wire))
      ∧ ms.lookup maxTurnsTargetField.plain = none := by
  refine ⟨_, rfl, ?_⟩
  simp [List.lookup_append, lookup_member?, idField, onEnterField,
    transitionsField, handlerField, maxTurnsField, maxTurnsTargetField,
    Field.named, List.lookup_cons]

/-- What `ofState` writes of a state that is `CapSound` is read as the state
`respelt`. -/
theorem state_ofState {s : State} (h : s.CapSound) :
    state (ofState s) = .accepted s.respelt := by
  obtain ⟨ms, hms, hid, honEnter, htransitions, hhandler, hmaxTurns,
    hmaxTurns', htarget, htarget'⟩ := ofState_members s
  have hid : idField.required Checked.text ms = .accepted s.id :=
    Field.required_accepted hid rfl
  have honEnter : onEnterField.required Checked.text ms
      = .accepted s.onEnter := Field.required_accepted honEnter rfl
  have htransitions : transitionsField.optional .empty
      (Checked.catalog target) ms
        = .accepted (s.transitions.map fun _ t => .parse t.wire) := by
    refine Field.optional_accepted htransitions ?_ nofun
    rintro w ⟨⟩
    exact Checked.catalog_map fun entry _ => target_wire entry.2
  have hhandler : handlerField.optional none (Checked.nullable Checked.text) ms
      = .accepted s.handler := by
    refine Field.optional_accepted hhandler ?_ ?_
    · intro w hw
      obtain ⟨name, hname, rfl⟩ := Option.map_eq_some_iff.1 hw
      rw [hname]
      rfl
    · intro hnone
      exact ⟨hhandler.trans hnone, Option.map_eq_none_iff.1 hnone⟩
  have hmaxTurns : maxTurnsField.optional none (Checked.nullable cap) ms
      = .accepted s.maxTurns := by
    refine Field.optional_accepted hmaxTurns ?_ ?_
    · intro w hw
      obtain ⟨n, hn, rfl⟩ := Option.map_eq_some_iff.1 hw
      have hpos : ¬ n < 0 := Int.not_lt.2 (h n hn)
      simp only [Checked.nullable, cap, whole, Checked.andThen_accepted,
        if_neg hpos, Checked.map_accepted, hn]
    · intro hnone
      exact ⟨hmaxTurns', Option.map_eq_none_iff.1 hnone⟩
  -- the way out is not written, and stands in for what is not there
  have htarget : maxTurnsTargetField.optional none (Checked.nullable target) ms
      = .accepted (if s.maxTurnsTarget = .exit then none
        else some (.parse s.maxTurnsTarget.wire)) := by
    refine Field.optional_accepted htarget ?_ ?_
    · intro w hw
      by_cases hexit : s.maxTurnsTarget = .exit
      · rw [if_pos hexit] at hw
        cases hw
      · rw [if_neg hexit] at hw ⊢
        cases hw
        rfl
    · intro hnone
      refine ⟨htarget', ?_⟩
      by_cases hexit : s.maxTurnsTarget = .exit
      · rw [if_pos hexit]
      · rw [if_neg hexit] at hnone
        cases hnone
  have hexit : Target.parse Target.exit.wire = .exit :=
    Target.parse_wire rfl
  have hwhole : (if s.maxTurnsTarget = .exit then none
      else some (Target.parse s.maxTurnsTarget.wire)).getD .exit
        = .parse s.maxTurnsTarget.wire := by
    by_cases h : s.maxTurnsTarget = .exit
    · rw [if_pos h, h, hexit]
      rfl
    · rw [if_neg h]
      rfl
  rw [hms]
  unfold state
  simp only [Checked.members, Checked.andThen_accepted, hid, honEnter,
    htransitions, hhandler, hmaxTurns, htarget, hwhole, Checked.map_accepted,
    Checked.seq_accepted]
  rfl

/-- What `target` accepts is canonical. -/
theorem canonical_of_target {v : Value} {t : Target}
    (h : target v = .accepted t) : t.Canonical := by
  obtain ⟨text, -, rfl⟩ := Checked.map_eq_accepted.1 h
  exact Target.parse_canonical text

/-- What `cap` accepts is not negative. -/
theorem nonneg_of_cap {v : Value} {n : Int} (h : cap v = .accepted n) :
    0 ≤ n := by
  obtain ⟨m, -, hm⟩ := Checked.andThen_eq_accepted.1 h
  by_cases hneg : m < 0
  · rw [if_pos hneg] at hm
    cases hm
  · rw [if_neg hneg] at hm
    cases hm
    exact Int.not_lt.1 hneg

theorem of_nullable {α : Type} {check : Value → Checked α} {v : Value}
    {a : Option α} (h : Checked.nullable check v = .accepted a) :
    ∀ b, a = some b → ∃ w, check w = .accepted b := by
  rintro b rfl
  unfold Checked.nullable at h
  cases v with
  | null => cases h
  | _ =>
      obtain ⟨c, hc, hb⟩ := Checked.map_eq_accepted.1 h
      cases hb
      exact ⟨_, hc⟩

/-- What `state` accepts is `Canonical`. -/
theorem canonical_of_state {v : Value} {s : State}
    (h : state v = .accepted s) : s.Canonical := by
  obtain ⟨ms, -, h⟩ := Checked.andThen_eq_accepted.1 h
  simp only [Checked.seq_eq_accepted, Checked.map_eq_accepted] at h
  obtain ⟨_, ⟨_, ⟨_, ⟨_, ⟨_, ⟨id, -, rfl⟩, onEnter, -, rfl⟩, transitions,
    htransitions, rfl⟩, handler, -, rfl⟩, maxTurns, hmaxTurns, rfl⟩,
    maxTurnsTarget, htarget, rfl⟩ := h
  refine ⟨?_, ?_, ?_⟩
  · intro n hn
    have hn : maxTurns = some n := hn
    rcases Field.of_optional hmaxTurns with hnone | ⟨w, hw⟩
    · rw [hnone] at hn
      cases hn
    · obtain ⟨w', hw'⟩ := of_nullable hw n hn
      exact nonneg_of_cap hw'
  · rcases Field.of_optional htransitions with hnone | ⟨w, hw⟩
    · rw [hnone]
      exact nofun
    · intro entry hentry
      obtain ⟨w', hw'⟩ := Checked.exists_of_catalog hw entry hentry
      exact canonical_of_target hw'
  · cases ht : maxTurnsTarget with
    | none => exact (rfl : Target.exit.state = none)
    | some t =>
        rcases Field.of_optional htarget with hnone | ⟨w, hw⟩
        · rw [hnone] at ht
          cases ht
        · obtain ⟨w', hw'⟩ := of_nullable hw t ht
          exact canonical_of_target hw'

end Record

-- =========================================================== definitions

namespace Definition

/-- Every state stands under its own id and is `CapSound`. -/
structure Writable (d : Definition) : Prop where
  keyed : ∀ entry ∈ d.states.entries, entry.2.id = entry.1
  caps : ∀ entry ∈ d.states.entries, entry.2.CapSound

/-- A `Writable` definition whose targets are canonical. -/
structure Canonical (d : Definition) : Prop where
  keyed : ∀ entry ∈ d.states.entries, entry.2.id = entry.1
  states : ∀ entry ∈ d.states.entries, entry.2.Canonical

theorem Canonical.writable {d : Definition} (h : d.Canonical) : d.Writable :=
  ⟨h.keyed, fun entry hentry => (h.states entry hentry).cap⟩

/-- The definition with every state `respelt`. -/
def respelt (d : Definition) : Definition :=
  { d with states := d.states.map fun _ s => s.respelt }

theorem respelt_eq {d : Definition} (h : d.Canonical) : d.respelt = d := by
  have hstates : (d.states.map fun _ s => s.respelt) = d.states :=
    Catalog.map_eq_self fun entry hentry =>
      State.respelt_eq (h.states entry hentry)
  unfold respelt
  rw [hstates]

end Definition

namespace Record

/-- The members that `ofDefinition` writes, by their names. -/
theorem ofDefinition_members (d : Definition) :
    ∃ ms, ofDefinition d = .map ms
      ∧ ms.lookup idField.wire = some (.string d.id)
      ∧ ms.lookup triggerField.wire = some (.string d.trigger)
      ∧ ms.lookup initialField.wire = some (.string d.initial)
      ∧ ms.lookup exitPhrasesField.wire
        = some (.list (d.exitPhrases.map .string))
      ∧ ms.lookup exitMessageField.wire = some (.string d.exitMessage)
      ∧ ms.lookup statesField.wire
        = some (.map (d.states.map fun _ s => ofState s).entries)
      ∧ ms.lookup presentationField.wire
        = d.presentation.map ofPresentation := by
  refine ⟨_, rfl, ?_⟩
  simp [lookup_member?, idField, triggerField, initialField, exitPhrasesField,
    exitMessageField, statesField, presentationField, Field.named,
    List.lookup_cons]

theorem parts_ofDefinition {d : Definition} (h : d.Writable) :
    parts (ofDefinition d) = .accepted d.respelt := by
  obtain ⟨ms, hms, hid, htrigger, hinitial, hphrases, hmessage, hstates,
    hpresentation⟩ := ofDefinition_members d
  have hid : idField.required Checked.text ms = .accepted d.id :=
    Field.required_accepted hid rfl
  have htrigger : triggerField.required Checked.text ms
      = .accepted d.trigger := Field.required_accepted htrigger rfl
  have hinitial : initialField.required Checked.text ms
      = .accepted d.initial := Field.required_accepted hinitial rfl
  have hphrases : exitPhrasesField.optional [] (Checked.list Checked.text) ms
      = .accepted d.exitPhrases := by
    refine Field.optional_accepted hphrases ?_ nofun
    rintro w ⟨⟩
    exact Checked.list_text d.exitPhrases
  have hmessage : exitMessageField.required Checked.text ms
      = .accepted d.exitMessage := Field.required_accepted hmessage rfl
  have hstates : statesField.required (Checked.catalog state) ms
      = .accepted (d.states.map fun _ s => s.respelt) :=
    Field.required_accepted hstates (Checked.catalog_map fun entry hentry =>
      state_ofState (h.caps entry hentry))
  have hpresentation : presentationField.optional none
      (Checked.nullable presentation) ms = .accepted d.presentation := by
    refine Field.optional_accepted hpresentation ?_ ?_
    · intro w hw
      obtain ⟨p, hp, rfl⟩ := Option.map_eq_some_iff.1 hw
      rw [hp]
      rfl
    · intro hnone
      exact ⟨hpresentation.trans hnone, Option.map_eq_none_iff.1 hnone⟩
  rw [hms]
  unfold parts
  simp only [Checked.members, Checked.andThen_accepted, hid, htrigger,
    hinitial, hphrases, hmessage, hstates, hpresentation,
    Checked.map_accepted, Checked.seq_accepted]
  rfl

/-- What `keyed` accepts is any definition whose states stand under their ids,
as it is. -/
theorem keyed_eq_accepted {d d' : Definition} :
    keyed d = .accepted d'
      ↔ (∀ entry ∈ d.states.entries, entry.2.id = entry.1) ∧ d' = d := by
  unfold keyed
  cases hfind : strayState? d with
  | none =>
      unfold strayState? at hfind
      rw [List.find?_eq_none] at hfind
      simp only [bne_iff_ne, ne_eq, Decidable.not_not] at hfind
      simp only [Checked.accepted.injEq]
      exact ⟨fun heq => ⟨hfind, heq.symm⟩, fun heq => heq.2.symm⟩
  | some entry =>
      have hstray := List.find?_some hfind
      have hmem := List.mem_of_find?_eq_some hfind
      simp only [bne_iff_ne, ne_eq] at hstray
      constructor
      · intro heq
        cases heq
      · rintro ⟨hkeyed, -⟩
        exact absurd (hkeyed entry hmem) hstray

/-- A `Writable` definition is written, and read again `respelt`. -/
theorem read_write {d : Definition} (h : d.Writable) :
    write d = .ok (ofDefinition d)
      ∧ read (ofDefinition d) = .ok d.respelt := by
  have hkeyed : keyed d = .accepted d := keyed_eq_accepted.2 ⟨h.keyed, rfl⟩
  constructor
  · have hcaps : ¬ d.states.values.any (fun s => s.maxTurns.any (· < 0))
        = true := by
      rw [List.any_eq_true]
      rintro ⟨s, hs, hneg⟩
      obtain ⟨entry, hentry, rfl⟩ := List.mem_map.1 hs
      cases hcap : entry.2.maxTurns with
      | none =>
          rw [hcap] at hneg
          cases hneg
      | some n =>
          rw [hcap, Option.any_some, decide_eq_true_eq] at hneg
          exact Int.not_lt.2 (h.caps entry hentry n hcap) hneg
    unfold write
    rw [if_neg hcaps, hkeyed]
    rfl
  · have hrespelt : keyed d.respelt = .accepted d.respelt := by
      refine keyed_eq_accepted.2 ⟨?_, rfl⟩
      intro entry hentry
      obtain ⟨entry', hentry', rfl⟩ := List.mem_map.1 hentry
      exact h.keyed entry' hentry'
    unfold read
    rw [parts_ofDefinition h, Checked.andThen_accepted, hrespelt]
    rfl

/-- What `read` gives is `Canonical`. -/
theorem canonical_of_read {v : Value} {d : Definition}
    (h : read v = .ok d) : d.Canonical := by
  obtain ⟨d', hparts, hkeyed⟩ :=
    Checked.andThen_eq_accepted.1 (Checked.toExcept_eq_ok.1 h)
  obtain ⟨hkeys, rfl⟩ := keyed_eq_accepted.1 hkeyed
  refine ⟨hkeys, ?_⟩
  obtain ⟨ms, -, hparts⟩ := Checked.andThen_eq_accepted.1 hparts
  simp only [Checked.seq_eq_accepted, Checked.map_eq_accepted] at hparts
  obtain ⟨_, ⟨_, ⟨_, ⟨_, ⟨_, ⟨_, ⟨id, -, rfl⟩, trigger, -, rfl⟩, initial, -,
    rfl⟩, phrases, -, rfl⟩, message, -, rfl⟩, states, hstates, rfl⟩,
    presentation, -, rfl⟩ := hparts
  obtain ⟨w, hw⟩ := Field.of_required hstates
  intro entry hentry
  obtain ⟨w', hw'⟩ := Checked.exists_of_catalog hw entry hentry
  exact canonical_of_state hw'

end Record

-- ============================================================= likeness

/-- Two states that are equal but for the order of their transitions. -/
structure State.Alike (s t : State) : Prop where
  id : s.id = t.id
  onEnter : s.onEnter = t.onEnter
  transitions : ∀ intent, s.transitions.get? intent = t.transitions.get? intent
  handler : s.handler = t.handler
  maxTurns : s.maxTurns = t.maxTurns
  maxTurnsTarget : s.maxTurnsTarget = t.maxTurnsTarget

/-- Two definitions that are equal but for the order of their states, and of
the transitions of each. -/
structure Definition.Alike (d d' : Definition) : Prop where
  id : d.id = d'.id
  trigger : d.trigger = d'.trigger
  initial : d.initial = d'.initial
  keys : ∀ key, d.states.contains key = d'.states.contains key
  states : ∀ key s s', d.states.get? key = some s →
    d'.states.get? key = some s' → s.Alike s'
  exitPhrases : d.exitPhrases = d'.exitPhrases
  exitMessage : d.exitMessage = d'.exitMessage
  presentation : d.presentation = d'.presentation

/-- A state that is `Alike` to itself `respelt` has canonical targets. -/
theorem State.canonical_of_alike {s : State} (hcap : s.CapSound)
    (h : s.respelt.Alike s) : s.Canonical := by
  refine ⟨hcap, ?_, Target.parse_wire_iff.1 h.maxTurnsTarget⟩
  intro entry hentry
  have hsame := h.transitions entry.1
  rw [Catalog.get?_of_mem hentry] at hsame
  have hread := Catalog.get?_map_of_mem hentry fun _ t => Target.parse t.wire
  exact Target.parse_wire_iff.1 (Option.some.inj (hread.symm.trans hsame))

/-- A definition that is `Alike` to itself `respelt` has canonical targets. -/
theorem Definition.canonical_of_alike {d : Definition} (hd : d.Writable)
    (h : d.respelt.Alike d) : d.Canonical := by
  -- the states are compared key by key, so their order plays no part
  refine ⟨hd.keyed, ?_⟩
  intro entry hentry
  have hread := Catalog.get?_map_of_mem hentry fun _ s => State.respelt s
  exact State.canonical_of_alike (hd.caps entry hentry)
    (h.states entry.1 _ _ hread (Catalog.get?_of_mem hentry))

-- ============================================================= the codec

namespace Record

/-- Records round-trip exactly on their image. What `read` gives is
`Canonical`, is written, and is read again as it was, so what is written of
what was read is read and written the same once more. Every `Canonical`
definition is written and read again as it was, in every order. And one that is
`Writable` but has a target that is not canonical is read as another one, in
whatever order its states and transitions are compared (`Definition.Alike`). -/
theorem read_write_exactly :
    (∀ v d, read v = .ok d →
      d.Canonical ∧ ∃ w, write d = .ok w ∧ read w = .ok d)
    ∧ (∀ v w, (read v >>= write) = .ok w → (read w >>= write) = .ok w)
    ∧ (∀ d : Definition, d.Canonical →
      ∃ w, write d = .ok w ∧ read w = .ok d)
    ∧ ∀ d : Definition, d.Writable → ¬ d.Canonical →
      ∃ w d', write d = .ok w ∧ read w = .ok d' ∧ ¬ d'.Alike d := by
  have hback : ∀ d : Definition, d.Canonical →
      write d = .ok (ofDefinition d) ∧ read (ofDefinition d) = .ok d := by
    intro d hd
    obtain ⟨hwrite, hread⟩ := read_write hd.writable
    rw [Definition.respelt_eq hd] at hread
    exact ⟨hwrite, hread⟩
  refine ⟨?_, ?_, fun d hd => ⟨_, hback d hd⟩, ?_⟩
  · intro v d hread
    have hd := canonical_of_read hread
    exact ⟨hd, _, hback d hd⟩
  · intro v w hnormal
    cases hread : read v with
    | error refusal =>
        rw [hread] at hnormal
        cases hnormal
    | ok d =>
        obtain ⟨hwrite, hagain⟩ := hback d (canonical_of_read hread)
        have hw : ofDefinition d = w := by
          rw [hread] at hnormal
          exact Except.ok.inj (hwrite.symm.trans hnormal)
        rw [← hw, hagain]
        exact hwrite
  · intro d hd hcanonical
    obtain ⟨hwrite, hread⟩ := read_write hd
    exact ⟨_, _, hwrite, hread, fun h =>
      hcanonical (Definition.canonical_of_alike hd h)⟩

/-- A workflow of one state, with `t` as the target of its cap. -/
def oneState (t : Target) : Definition where
  id := "one"
  trigger := "start"
  initial := "a"
  states := .ofList [("a", { id := "a", onEnter := "", maxTurnsTarget := t })]

/-- With an exit as its target, `oneState` is written and read again as it was;
with a goto that names no state it is read as another one. -/
theorem read_write_oneState :
    (∃ w, write (oneState .exit) = .ok w ∧ read w = .ok (oneState .exit))
    ∧ ∃ w d', write (oneState { kind := .goto }) = .ok w ∧ read w = .ok d'
      ∧ ¬ d'.Alike (oneState { kind := .goto }) := by
  have hentries : ∀ t, (oneState t).states.entries
      = [("a", { id := "a", onEnter := "", maxTurnsTarget := t })] :=
    fun _ => rfl
  have hwritable : ∀ t, (oneState t).Writable := by
    intro t
    constructor
    · rw [hentries]
      exact List.forall_mem_singleton.2 rfl
    · rw [hentries]
      exact List.forall_mem_singleton.2 nofun
  have hexit : (oneState .exit).Canonical := by
    refine ⟨(hwritable .exit).keyed, ?_⟩
    rw [hentries]
    exact List.forall_mem_singleton.2 ⟨nofun, nofun, rfl⟩
  have hgoto : ¬ (oneState { kind := .goto }).Canonical := by
    intro h
    have hstates := h.states
    rw [hentries] at hstates
    obtain ⟨key, hkey, -⟩ :=
      (List.forall_mem_singleton.1 hstates).maxTurnsTarget
    cases hkey
  exact ⟨read_write_exactly.2.2.1 _ hexit,
    read_write_exactly.2.2.2 _ (hwritable _) hgoto⟩

end Record
end Colloquy
