/-
Editing a state of a running workflow. A definition is registered on one
stage, and a copy of it with one state put in on another one; then the same
inputs come to both. As long as no input heads for the state, nobody can tell
the stages apart: the results are the same, the same workflow is running in
the same state and remembers the same, and whether it captures is the same
(`runAll_edited`). The first input that does head for it is the same in both
runs, and there they may part: without the edit the state may be missing, so
that the one workflow ends where the other one goes on.
-/
import Colloquy.Proofs.Engine.Editing
import Colloquy.Proofs.Script.Isolation

namespace Colloquy

variable {w key : String} {r' : Registry}

namespace Script

-- ============================================================= operations

/-- Whether the operation is an input, an announcement, a reset or a question
to the engine, and not a question about the definition of `w`. -/
def Operation.isBlindTo (w : String) : Operation → Bool
  | .handle .. | .announce _ | .reset => true
  | .ask (.record id) | .ask (.problems id) => id ≠ w
  | .ask (.subscribers _) => false
  | .ask _ => true
  | _ => false

theorem Operation.isDirect_of_isBlindTo {op : Operation}
    (h : op.isBlindTo w = true) : op.isDirect = true := by
  cases op with
  | handle text intent => rfl
  | announce message => rfl
  | reset => rfl
  | ask query =>
      cases query with
      | subscribers event => cases h
      | _ => rfl
  | _ => cases h

theorem Operation.not_isSubscription_of_isBlindTo {op : Operation}
    (h : op.isBlindTo w = true) : op.isSubscription = false := by
  cases op with
  | subscribe event listener => cases h
  | unsubscribe event listener => cases h
  | _ => rfl

/-- The operation is an input that `Engine.HeadsFor` the state. -/
def Operation.HeadsFor (w key : String) (op : Operation) (s : Stage) : Prop :=
  ∃ text intent, op = .handle text intent
    ∧ s.engine.HeadsFor w key text intent

section AgreesOff

variable {s : Stage} (h : s.engine.registry.AgreesOff w key r')
include h

theorem answer_edited {query : Query}
    (hblind : (Operation.ask query).isBlindTo w = true) :
    answer (s.upon r') query = answer s query := by
  have hregistry : (s.upon r').engine.registry = r' := rfl
  cases query with
  | handlers names => rfl
  | subscribers event => cases hblind
  | shouldTrigger intent =>
      have htriggers := congrArg Option.isSome (h.triggers intent)
      rw [Option.isSome_map, Option.isSome_map] at htriggers
      simp only [answer, hregistry, Registry.shouldTrigger, htriggers]
  | findByTrigger intent =>
      simp only [answer, hregistry, h.triggers intent]
  | registry ids =>
      have hknown : ∀ id, (r'.get? id).isSome
          = (s.engine.registry.get? id).isSome := by
        intro id
        have hpart := congrArg Option.isSome
          (h.part id (fun _ => ()) fun _ _ => rfl)
        rw [Option.isSome_map, Option.isSome_map] at hpart
        exact hpart
      simp only [answer, hregistry, h.ids, hknown]
  | record id =>
      have hid : id ≠ w := by simpa [Operation.isBlindTo] using hblind
      simp only [answer, hregistry, h.others id hid]
  | problems id =>
      have hid : id ≠ w := by simpa [Operation.isBlindTo] using hblind
      simp only [answer, hregistry, h.others id hid]

variable (hoff : s.place ≠ some (w, some key)) {op : Operation}
  (hop : op.isBlindTo w = true) (hmiss : ¬ op.HeadsFor w key s)
include hoff hop hmiss

/-- Off the state, `settle` commutes with `upon`. -/
theorem settle_edited :
    settle op (s.upon r') = ((settle op s).1, (settle op s).2.upon r') := by
  cases op with
  | handle text intent =>
      refine settle_handle_of_plan (Engine.plan_edited h hoff fun hheads => ?_)
      exact hmiss ⟨text, intent, rfl, hheads⟩
  | announce message => exact settle_announce_upon message s
  | reset => rfl
  | ask query =>
      rw [settle_ask, settle_ask, answer_edited h hop]
  | _ => cases hop

omit h in
/-- An operation that `isBlindTo` a workflow settles without a change of the
registry. -/
theorem settle_blind_registry :
    (settle op s).2.engine.registry = s.engine.registry := by
  have hsettle := settle_edited (.refl s.engine.registry) hoff hop hmiss
  have hsame := congrArg (fun settled => settled.2.engine.registry) hsettle
  exact hsame

omit h in
/-- An operation that does not head for the state settles off it. -/
theorem settle_off : (settle op s).2.place ≠ some (w, some key) := by
  cases op with
  | handle text intent =>
      intro hplace
      rcases (settle_handle text intent s).place with hplan | hidle
      · refine Engine.plan_off hoff (fun hheads => ?_)
          (hplan.symm.trans hplace)
        exact hmiss ⟨text, intent, rfl, hheads⟩
      · exact nomatch (Engine.place_of_idle hidle).symm.trans hplace
  | announce message =>
      rw [settle_announce]
      exact hoff
  | reset => exact nofun
  | ask query =>
      rw [settle_ask]
      exact hoff
  | _ => cases hop

end AgreesOff

-- =============================================================== two runs

/-- The stages `s` and `t` are equal `upon` registries that agree off the state
under `key` in `w`, and that state is not active. -/
structure Stage.ApartAt (w key : String) (s t : Stage) : Prop where
  above : s.Above t
  agrees : s.engine.registry.AgreesOff w key t.engine.registry
  off : s.place ≠ some (w, some key)

section Apart

variable {s t : Stage}

theorem Stage.ApartAt.engine (h : s.ApartAt w key t) :
    t.engine = s.engine.upon t.engine.registry := h.above.part Stage.engine

theorem Stage.ApartAt.shows (h : s.ApartAt w key t) : s.Shows t := by
  refine h.above.shows fun a hactive => ?_
  refine Engine.state?_edited h.agrees fun hworkflow hkey => h.off ?_
  rw [Stage.place, Engine.place_of_active hactive, hworkflow, hkey]

/-- Whether an operation `HeadsFor` the state is the same on both stages. -/
theorem Stage.ApartAt.headsFor_iff (h : s.ApartAt w key t)
    (op : Operation) : op.HeadsFor w key t ↔ op.HeadsFor w key s := by
  unfold Operation.HeadsFor
  rw [h.engine]
  simp only [Engine.headsFor_upon_iff h.agrees h.off]

/-- An operation that does not head for the state comes to the same on both
stages, and leaves them `ApartAt` it. -/
theorem Stage.ApartAt.operates (h : s.ApartAt w key t) {op : Operation}
    (hop : op.isBlindTo w = true) (hmiss : ¬ op.HeadsFor w key s) :
    (run op t).1 = (run op s).1
      ∧ (run op s).2.ApartAt w key (run op t).2 := by
  have hoff : s.alone.place ≠ some (w, some key) := h.off
  have hmiss : ¬ op.HeadsFor w key s.alone := hmiss
  have hsettle := settle_edited (s := s.alone) h.agrees hoff hop hmiss
  have hresult := congrArg Prod.fst hsettle
  obtain ⟨habove, hregistry, hengine, hsame⟩ := h.above.operates
    (Operation.isDirect_of_isBlindTo hop)
    (Operation.not_isSubscription_of_isBlindTo hop)
    (congrArg Prod.snd hsettle) (congrArg newsIn hresult)
  refine ⟨hsame hresult, habove, ?_, ?_⟩
  · rw [hregistry, hengine, settle_blind_registry hoff hop hmiss]
    exact h.agrees
  · rw [Stage.place, hengine]
    exact settle_off hoff hop hmiss

end Apart

/-- No operation of the run `HeadsFor` the state. -/
def Stage.Misses (w key : String) : List Operation → Stage → Prop
  | [], _ => True
  | op :: rest, s => ¬ op.HeadsFor w key s ∧ Misses w key rest (run op s).2

theorem Stage.Misses.of_prefix {ops sofar : List Operation} {s : Stage}
    (h : Stage.Misses w key ops s) (hsofar : sofar <+: ops) :
    Stage.Misses w key sofar s := by
  obtain ⟨rest, rfl⟩ := hsofar
  induction sofar generalizing s with
  | nil => exact trivial
  | cons op sofar ih => exact ⟨h.1, ih h.2⟩

/-- As long as nothing heads for the state, runs from stages that are `ApartAt`
it come to the same, and leave such stages. -/
theorem Stage.ApartAt.runAll {ops : List Operation} {s t : Stage}
    (h : s.ApartAt w key t) (hops : ∀ op ∈ ops, op.isBlindTo w = true)
    (hmiss : Stage.Misses w key ops s) :
    (runAll ops t).1 = (runAll ops s).1
      ∧ (runAll ops s).2.ApartAt w key (runAll ops t).2 := by
  induction ops generalizing s t with
  | nil => exact ⟨rfl, h⟩
  | cons op rest ih =>
      obtain ⟨hop, hrest⟩ := List.forall_mem_cons.1 hops
      obtain ⟨hresult, hapart⟩ := h.operates hop hmiss.1
      obtain ⟨hresults, hend⟩ := ih hapart hrest hmiss.2
      refine ⟨?_, hend⟩
      show (run op t).1 :: (Script.runAll rest (run op t).2).1
        = (run op s).1 :: (Script.runAll rest (run op s).2).1
      rw [hresult, hresults]

/-- Whether a run `Misses` the state is the same on both stages. -/
theorem Stage.ApartAt.misses_iff {ops : List Operation} {s t : Stage}
    (h : s.ApartAt w key t) (hops : ∀ op ∈ ops, op.isBlindTo w = true) :
    Stage.Misses w key ops t ↔ Stage.Misses w key ops s := by
  induction ops generalizing s t with
  | nil => exact Iff.rfl
  | cons op rest ih =>
      obtain ⟨hop, hrest⟩ := List.forall_mem_cons.1 hops
      unfold Stage.Misses
      rw [h.headsFor_iff op]
      refine and_congr_right fun hmiss => ?_
      exact ih (h.operates hop hmiss).2 hrest

-- ================================================================ editing

/-- A registration changes the registry, the entries and the journal, and
nothing else. -/
theorem run_registerDefinition (d : Definition) (s : Stage) :
    ∃ entries journal, (run (.registerDefinition d) s).2
      = { s with
          engine := { s.engine with registry := s.engine.registry.register d }
          entries
          journal } := by
  rw [run_eq]
  exact ⟨_, _, rfl⟩

/-- Registering `d`, or else `d.withState edit`, leaves stages that are
`ApartAt` that state. -/
theorem Stage.apartAt_registered (d : Definition) (edit : State) {s : Stage}
    (hoff : s.place ≠ some (d.id, some edit.id))
    (hkeeps : s.KeepsToContexts) (hpassive : s.Passive) :
    (run (.registerDefinition d) s).2.ApartAt d.id edit.id
      (run (.registerDefinition (d.withState edit)) s).2 := by
  obtain ⟨entries, journal, hplain⟩ := run_registerDefinition d s
  obtain ⟨entries', journal', hedited⟩ :=
    run_registerDefinition (d.withState edit) s
  rw [hplain, hedited]
  exact ⟨⟨rfl, rfl, fun _ => rfl, rfl, hkeeps, hpassive, hpassive⟩,
    Registry.agreesOff_register _ d edit, hoff⟩

/-- Editing a state is local. At a stage that is not in the state, a
definition is registered, or a copy of it with the state put in. From there
on all operations come to the same, and after each of them the stages show
the same, up to the first input that heads for the state; and that one is the
same on both. The registration of the copy leaves everything but the registry
as it was. In the copy the state has the place of the one under its key, or
is the last one; all that is not under this key is as in the definition. -/
theorem runAll_edited (d : Definition) (edit : State) :
    (∀ s : Stage, s.place ≠ some (d.id, some edit.id) →
      s.KeepsToContexts → s.Passive →
      ∀ ops : List Operation, (∀ op ∈ ops, op.isBlindTo d.id = true) →
        let plain := (run (.registerDefinition d) s).2
        let edited := (run (.registerDefinition (d.withState edit)) s).2
        (Stage.Misses d.id edit.id ops edited
          ↔ Stage.Misses d.id edit.id ops plain)
        ∧ (Stage.Misses d.id edit.id ops plain →
          (runAll ops edited).1 = (runAll ops plain).1
          ∧ ∀ sofar, sofar <+: ops →
            (runAll sofar plain).2.Shows (runAll sofar edited).2))
    ∧ (∀ s : Stage, ∃ entries journal,
      (run (.registerDefinition (d.withState edit)) s).2
        = { s with
            engine := { s.engine with
              registry := s.engine.registry.register (d.withState edit) }
            entries
            journal })
    ∧ (d.withState edit).states.names
        = (if edit.id ∈ d.states.names then d.states.names
          else d.states.names ++ [edit.id])
    ∧ (∀ key, (d.withState edit).states.get? key
        = if key = edit.id then some edit else d.states.get? key)
    ∧ { d.withState edit with states := d.states } = d := by
  refine ⟨fun s hoff hkeeps hpassive ops hops => ?_,
    run_registerDefinition (d.withState edit), d.names_withState edit,
    d.get?_withState edit, rfl⟩
  have hapart := Stage.apartAt_registered d edit hoff hkeeps hpassive
  refine ⟨hapart.misses_iff hops, fun hmiss => ⟨(hapart.runAll hops hmiss).1,
    fun sofar hsofar => ?_⟩⟩
  obtain ⟨-, hend⟩ := hapart.runAll
    (fun op hop => hops op (hsofar.subset hop)) (hmiss.of_prefix hsofar)
  exact hend.shows

/-- A stage where a workflow is running whose only transition leads to a state
that is missing. -/
def straying : Stage :=
  { lobby with
    engine :=
      { registry := ({} : Registry).register Engine.misled
        active := some { serial := 0, workflow := "misled", state := some "a" }
        activations := 1 } }

/-- The state that is missing on `straying`. -/
def there : State := { id := "b", onEnter := "There." }

/-- With the state `there` put in, all comes to the same up to the transition:
that is where the one workflow ends, and the other one goes on. -/
theorem runAll_edited_straying :
    let ops : List Operation :=
      [.handle "well" "stay", .announce "Still here."]
    let plain := (run (.registerDefinition Engine.misled) straying).2
    let edited :=
      (run (.registerDefinition (Engine.misled.withState there)) straying).2
    Stage.Misses "misled" "b" ops plain
      ∧ (runAll ops edited).1 = (runAll ops plain).1
      ∧ (run (.handle "" "go") (runAll ops plain).2).2.place = none
      ∧ (run (.handle "" "go") (runAll ops edited).2).2.place
        = some ("misled", some "b") := by
  intro ops plain edited
  have hmiss : Stage.Misses "misled" "b" ops plain := by
    obtain ⟨entries, journal, hplain⟩ :=
      run_registerDefinition Engine.misled straying
    refine ⟨?_, ?_, trivial⟩
    · rintro ⟨text, intent, hop, hheads⟩
      cases hop
      rw [show plain = _ from hplain] at hheads
      cases hheads with
      | activating hidle => cases hidle
      | following hactive hworkflow hends hstate hdecides =>
          cases hactive
          cases hstate
          cases hdecides
    · rintro ⟨text, intent, hop, -⟩
      cases hop
  obtain ⟨-, hsame⟩ := (runAll_edited Engine.misled there).1 straying
    (by decide) nofun nofun ops (by decide)
  exact ⟨hmiss, (hsame hmiss).1, by decide +kernel, by decide +kernel⟩

end Script
end Colloquy
