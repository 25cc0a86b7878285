/-
What a registry says of the registrations that made it. A registration puts
definitions into the registry of the engine, or it fails and puts in none
(`Registers`); nothing else changes. So after a run of registrations the
registry holds what was enrolled in it, one definition after another
(`runAll_enrols`), and everything that it can be asked is answered by that
log (`Speaks`).

An idle engine asks its registry for the trigger of an input and for nothing
else. Whether an input is consumed, and by which workflow, is therefore in
the log as well (`run_handle_idle`). The message of the first state can
always be made: an activation that starts has nothing in its buffer that is
no text, whatever is kept of earlier ones.
-/
import Colloquy.Proofs.Loading
import Colloquy.Proofs.Registry
import Colloquy.Proofs.Script.Bypass
import Colloquy.Proofs.Script.Numbers

namespace Colloquy

namespace Script

-- ========================================================== registrations

/-- Whether the operation registers a definition, or a batch of them. -/
def Operation.isRegistration : Operation → Bool
  | .registerDefinition _ | .register _ | .loadBatch _ => true
  | _ => false

/-- What a registration comes to, and the definitions that it puts into the
registry. A record is read first, and a batch is read as a whole; what cannot
be read is refused and puts in nothing. -/
inductive Registers :
    Operation → Except Fault Reply → List Definition → Prop
  | definition {d : Definition} :
      Registers (.registerDefinition d) (.ok .nothing) [d]
  | record {record : String} {v : Value} {d : Definition}
      (hjson : Json.read record.toList = .ok v)
      (hrecord : Record.read v = .ok d) :
      Registers (.register record) (.ok .nothing) [d]
  | noRecord {record : String} {fault : Fault}
      (h : ∀ v d, Json.read record.toList = .ok v → Record.read v ≠ .ok d) :
      Registers (.register record) (.error fault) []
  | batch {text : String} {ds : List Definition}
      (h : Batch.Hold (Text.lines text.toList) ds) :
      Registers (.loadBatch text) (.ok (.names (ds.map (·.id)))) ds
  | noBatch {text : String} {fault : Fault}
      (h : ¬ ∃ ds, Batch.Hold (Text.lines text.toList) ds) :
      Registers (.loadBatch text) (.error fault) []

/-- What registrations come to one after another, and the log of the
definitions that they put into the registry. -/
inductive Enrols :
    List Operation → List (Except Fault Reply) → List Definition → Prop
  | nil : Enrols [] [] []
  | cons {op : Operation} {result : Except Fault Reply}
      {ds log : List Definition} {ops : List Operation}
      {results : List (Except Fault Reply)} (first : Registers op result ds)
      (rest : Enrols ops results log) :
      Enrols (op :: ops) (result :: results) (ds ++ log)

/-- The stage with `ds` registered in the engine. -/
def Stage.enrolling (s : Stage) (ds : List Definition) : Stage :=
  { s with engine :=
      { s.engine with registry := s.engine.registry.registerAll ds } }

/-- The stage without its entries and its journal. -/
def Stage.unnoted (s : Stage) : Stage :=
  { s with entries := [], journal := [] }

/-- A registration puts in its definitions (`Registers`) and changes nothing
else that is noted in `unnoted`. -/
theorem perform_registers (inner : Operation → Run Reply) {op : Operation}
    (hop : op.isRegistration = true) (s : Stage) :
    ∃ ds, Registers op (perform inner op s).1 ds
      ∧ (perform inner op s).2.unnoted = (s.enrolling ds).unnoted := by
  cases op with
  | registerDefinition d => exact ⟨[d], .definition, rfl⟩
  | register record =>
      have hperform : perform inner (.register record)
          = readRecord record.toList >>= fun d => register d >>= fun _ =>
            pure .nothing := rfl
      rw [hperform]
      unfold readRecord
      cases hjson : Json.read record.toList with
      | error fault =>
          refine ⟨[], .noRecord fun v d h => ?_, rfl⟩
          rw [hjson] at h
          cases h
      | ok v =>
          dsimp only
          cases hrecord : Record.read v with
          | error refusal =>
              refine ⟨[], .noRecord fun v' d h => ?_, rfl⟩
              cases hjson.symm.trans h
              rw [hrecord]
              exact nofun
          | ok d => exact ⟨[d], .record hjson hrecord, rfl⟩
  | loadBatch text =>
      have hperform : perform inner (.loadBatch text) s
          = takeLoaded ((s.engine.registry.loadBatch text.toList).mapError
            .batch) s := rfl
      rw [hperform]
      rcases s.engine.registry.loadBatch_cases text.toList
        with ⟨ds, hds, hload⟩ | ⟨number, fault, hstops, hload⟩
      · rw [hload]
        exact ⟨ds, .batch hds, rfl⟩
      · rw [hload]
        exact ⟨[], .noBatch hstops.not_hold, rfl⟩
  | _ => cases hop

/-- The same for `run`. -/
theorem run_registers {op : Operation} (hop : op.isRegistration = true)
    (s : Stage) :
    ∃ ds, Registers op (run op s).1 ds
      ∧ (run op s).2.unnoted = (s.enrolling ds).unnoted := by
  rw [run_result, run_part Stage.unnoted fun _ => rfl]
  exact perform_registers run hop s.afresh

/-- A run of registrations `Enrols` a log, and changes nothing else. -/
theorem runAll_enrols (ops : List Operation)
    (hops : ∀ op ∈ ops, op.isRegistration = true) (s : Stage) :
    ∃ log, Enrols ops (runAll ops s).1 log
      ∧ (runAll ops s).2.unnoted = (s.enrolling log).unnoted := by
  induction ops generalizing s with
  | nil => exact ⟨[], .nil, rfl⟩
  | cons op rest ih =>
      obtain ⟨ds, hfirst, hstage⟩ :=
        run_registers (hops op (List.mem_cons_self ..)) s
      obtain ⟨log, hrest, hstages⟩ :=
        ih (fun op' h => hops op' (List.mem_cons_of_mem _ h)) (run op s).2
      refine ⟨ds ++ log, .cons hfirst hrest, hstages.trans ?_⟩
      have hmore : ∀ t : Stage, (t.enrolling log).unnoted
          = (t.unnoted.enrolling log).unnoted := fun _ => rfl
      rw [hmore, hstage]
      show ((s.enrolling ds).enrolling log).unnoted = _
      unfold Stage.enrolling Registry.registerAll
      rw [List.foldl_append]

-- ============================================================ idle engines

/-- Reactions carry the relation that always holds. -/
theorem anyhow_carries : Carries (fun _ _ => True) fun _ => True :=
  ⟨fun _ _ => trivial, fun _ => trivial, fun _ _ _ _ _ _ _ => trivial,
    fun _ _ _ _ => trivial⟩

/-- Whatever listeners do, `dispatch` does not fail. -/
theorem dispatch_ok (inner : Operation → Run Reply) (action : Action)
    (stray : Option Stray) (s : Stage) :
    (dispatch inner action stray s).1 = .ok () :=
  (dispatch_carries anyhow_carries (fun _ _ _ _ => trivial) action stray
    trivial).1

/-- An input that `carryOut` settles comes to its outcome. -/
theorem handle_settled {inner : Operation → Run Reply} {text intent : String}
    {s t : Stage} {outcome : Outcome} {stray : Option Stray}
    (h : carryOut (s.engine.plan text intent) s
      = (.ok (.settled outcome, stray), t)) :
    (handle inner text intent s).1 = .ok (outcome, stray) := by
  unfold handle
  rw [get_bind_apply, bind_of_ok h]
  have htold := (forM_carries anyhow_carries (f := fun action =>
    dispatch inner action stray) (fun action u _ =>
      ⟨dispatch_ok inner action stray u, trivial⟩)
    outcome.action.toList t trivial).1
  show ((outcome.action.toList.forM (fun action => dispatch inner action stray)
    >>= fun _ => pure (outcome, stray)) t).1 = _
  rw [bind_of_ok (Prod.ext htold rfl)]
  rfl

/-- What an idle engine over `r` makes of an input: it consumes one that
triggers a workflow, with an action of that workflow, and ignores any other
one. -/
structure Consumes (r : Registry) (intent : String) (outcome : Outcome) :
    Prop where
  consumed : outcome.consumed = r.shouldTrigger intent
  workflow : outcome.action.bind Action.workflow
    = (r.findByTrigger intent).map (·.id)

/-- From an idle engine, the plan settles on an outcome that `Consumes`
describes. -/
theorem plan_consumes {e : Engine Hook} (hidle : e.active = none)
    (text intent : String) :
    ∃ outcome, (e.plan text intent).carryOut.step = .settled outcome
      ∧ Consumes e.registry intent outcome := by
  have hconsumes : ∀ {d : Definition} {action : Action},
      e.registry.findByTrigger intent = some d →
      action.workflow = some d.id →
      Consumes e.registry intent (.done action) := by
    intro d action hd haction
    refine ⟨?_, ?_⟩
    · rw [Registry.shouldTrigger, hd]
      rfl
    · rw [hd]
      exact haction
  rcases e.plan_idle hidle text intent with ⟨hnone, heq⟩ | ⟨d, hd, heq, -⟩
  · rw [heq]
    refine ⟨.ignored, rfl, ?_, ?_⟩
    · rw [Registry.shouldTrigger, hnone]
      rfl
    · rw [hnone]
      rfl
  · rw [heq]
    rcases (e.activating d).enter_cases (e.activation d) d.initial none
      with ⟨warning, henter⟩ | ⟨d', b, template, hd', -, -, henter⟩
    · rw [henter]
      exact ⟨_, rfl, hconsumes hd rfl⟩
    · rw [henter]
      refine ⟨_, rfl, hconsumes hd ?_⟩
      have hid : d'.id = d.id := e.registry.keyed d.id d' hd'
      exact congrArg some hid

/-- An activation that an idle engine starts has no stray in its buffer. -/
theorem plan_stray? {s : Stage} (hs : s.Numbered)
    (hidle : s.engine.active = none) (text intent : String) :
    ({ s with engine := (s.engine.plan text intent).engine } : Stage).stray?
      = none := by
  rcases s.engine.plan_numbers text intent
    with ⟨a, b, ha, -, -⟩ | ⟨-, hengine⟩ | ⟨d, b, -, hab, hengine⟩
  · rw [hidle] at ha
    cases ha
  · unfold Stage.stray?
    rw [hengine, hidle]
    rfl
  · unfold Stage.stray?
    rw [hengine]
    have hserial : b.serial = s.engine.activations := hab.serial
    show s.strays.lookup b.serial = none
    rw [hserial]
    exact (hs.unused (Nat.le_refl _)).2

/-- The result of an input's `run` is that of `handle`. -/
theorem run_handle_result (text intent : String) (s : Stage) :
    (run (.handle text intent) s).1
      = (handle run text intent s.afresh).1.map
        fun r => .outcome r.1 r.2 := by
  rw [run_result]
  show ((handle run text intent >>= fun r =>
    (pure (.outcome r.1 r.2) : Run Reply)) s.afresh).1 = _
  rw [bind_apply]
  rcases handle run text intent s.afresh with ⟨fault | r, t⟩ <;> rfl

/-- An idle engine comes to an outcome that `Consumes` describes. -/
theorem run_handle_idle {s : Stage} (hs : s.Numbered)
    (hidle : s.engine.active = none) (text intent : String) :
    ∃ outcome, (run (.handle text intent) s).1 = .ok (.outcome outcome none)
      ∧ Consumes s.engine.registry intent outcome := by
  obtain ⟨outcome, hstep, hconsumes⟩ := plan_consumes hidle text intent
  have hs' : s.afresh.Numbered := ⟨hs.running, hs.strays, hs.ended⟩
  obtain ⟨t, hcarry, -⟩ := carryOut_clear (plan_stray? hs' hidle text intent)
  rw [show s.afresh.engine = s.engine from rfl, hstep] at hcarry
  have hhandle : (handle run text intent s.afresh).1 = .ok (outcome, none) :=
    handle_settled hcarry
  refine ⟨outcome, ?_, hconsumes⟩
  rw [run_handle_result, hhandle]
  rfl

-- ==================================================================== logs

/-- The registry speaks as the log does: its ids are those of the log, each
where it first came; under an id stands its `latest?` definition, and nothing
else; and what an intent triggers is what is `triggered?` by the log. -/
structure Speaks (r : Registry) (log : List Definition) : Prop where
  ids : r.ids = (log.map (·.id)).eraseDups
  latest : ∀ id, r.get? id = Registry.latest? log id
  own : ∀ id d, r.get? id = some d → d.id = id
  triggered : ∀ intent,
    r.findByTrigger intent = Registry.triggered? log intent

theorem speaks_registerAll (log : List Definition) :
    Speaks (({} : Registry).registerAll log) log where
  ids := Registry.ids_registerAll_empty log
  latest id := (Registry.get?_registerAll {} log id).trans Option.or_none
  own := (({} : Registry).registerAll log).keyed
  triggered := Registry.findByTrigger_registerAll log

/-- A registry refines the log of its registrations. Where it was fresh, it
`Speaks` after any registrations, some of which may fail, as the log of what
they enrolled. An idle engine over it consumes just the inputs whose intents it
says are triggers, whatever their texts, with an action of the definition that
the log says is triggered. -/
theorem runAll_refines_log (ops : List Operation) (s : Stage)
    (hops : ∀ op ∈ ops, op.isRegistration = true)
    (hfresh : s.engine.registry = {}) :
    ∃ log, Enrols ops (runAll ops s).1 log
      ∧ Speaks (runAll ops s).2.engine.registry log
      ∧ ∀ t : Stage,
        t.engine.registry = (runAll ops s).2.engine.registry →
        t.engine.active = none → t.Numbered →
        ∀ intent, (run (.ask (.shouldTrigger intent)) t).1
            = .ok (.truth (Registry.triggered? log intent).isSome)
          ∧ ∀ text, ∃ outcome,
            (run (.handle text intent) t).1 = .ok (.outcome outcome none)
            ∧ outcome.consumed = (Registry.triggered? log intent).isSome
            ∧ outcome.action.bind Action.workflow
              = (Registry.triggered? log intent).map (·.id) := by
  obtain ⟨log, hlog, hstage⟩ := runAll_enrols ops hops s
  have hregistry : (runAll ops s).2.engine.registry
      = ({} : Registry).registerAll log := by
    have hengine := congrArg (fun t : Stage => t.engine.registry) hstage
    rw [← hfresh]
    exact hengine
  have hspeaks := speaks_registerAll log
  rw [hregistry]
  refine ⟨log, hlog, hspeaks, fun t ht hidle hnumbered intent =>
    ⟨?_, fun text => ?_⟩⟩
  · rw [← hspeaks.triggered, ← ht, run_result]
    rfl
  · obtain ⟨outcome, hresult, hconsumes⟩ :=
      run_handle_idle hnumbered hidle text intent
    rw [ht] at hconsumes
    rw [← hspeaks.triggered]
    exact ⟨outcome, hresult, hconsumes.consumed, hconsumes.workflow⟩

/-- A definition with this trigger, and with one state to go to. -/
def usher (id trigger : String) : Definition where
  id := id
  trigger := trigger
  initial := "a"
  states := .ofList [("a", { id := "a", onEnter := "Here." })]

/-- A stage with a fresh registry. -/
def lobby : Stage where
  engine := {}
  disk := { find := fun _ => .ok .device }

/-- On `lobby` the first definition is overtaken by the second one, which has
the same trigger, as soon as its own trigger changes. -/
theorem runAll_refines_log_lobby :
    let ops : List Operation := [
      .registerDefinition (usher "first" "start"),
      .registerDefinition (usher "second" "start"),
      .loadBatch "\x7b",
      .registerDefinition (usher "first" "go")]
    let r := (runAll ops lobby).2.engine.registry
    (r.ids = ["first", "second"]
        ∧ (r.findByTrigger "start").map (·.id) = some "second")
      ∧ ∃ log, Enrols ops (runAll ops lobby).1 log ∧ Speaks r log
        ∧ ∃ outcome, (run (.handle "" "start") (runAll ops lobby).2).1
            = .ok (.outcome outcome none)
          ∧ outcome.action.bind Action.workflow
            = (Registry.triggered? log "start").map (·.id) := by
  intro ops r
  refine ⟨by decide +kernel, ?_⟩
  have hops : ∀ op ∈ ops, op.isRegistration = true := by decide +kernel
  obtain ⟨log, hlog, hspeaks, hidle⟩ := runAll_refines_log ops lobby hops rfl
  have hnumbered : lobby.Numbered := .of_unused rfl rfl rfl
  have hrest : (runAll ops lobby).2.engine.active = none := by
    have hnone : (runAll ops lobby).2.engine.active.isNone = true := by
      decide +kernel
    exact Option.isNone_iff_eq_none.1 hnone
  obtain ⟨-, hinput⟩ := hidle (runAll ops lobby).2 rfl hrest
    (runAll_onward ops hnumbered).numbered "start"
  obtain ⟨outcome, hresult, -, hworkflow⟩ := hinput ""
  exact ⟨log, hlog, hspeaks, outcome, hresult, hworkflow⟩

end Script
end Colloquy
