/-
Registries that an engine is given. Whoever made the registry keeps hold of
it, so that registrations come from two sides: through the engine, and
directly. If the engine uses the registry that it was given, they all go
into one registry, in the order in which they come (`run_shared`). If it
does not, each side has its own (`run_apart`), and what is registered on the
one side is not known on the other.

An engine uses the registry that it is given if and only if that one has a
definition by then (`Handle.adopt`). So an empty registry is a trap: it can
be filled later, but the engine has made its own.
-/
import Colloquy.Proofs.Script.Registering

namespace Colloquy

namespace Script

-- ================================================================= sides

/-- The side that a registration comes from: through the engine, or directly
on the registry that the engine was given. -/
inductive Side
  | engine
  | outside
deriving DecidableEq

/-- A registration, of a definition or of a batch, from one of the sides. -/
inductive Registration
  | definition (side : Side) (d : Definition)
  | batch (side : Side) (text : String)

namespace Registration

/-- The side that a registration comes from. -/
def side : Registration → Side
  | .definition side _ | .batch side _ => side

/-- The stage after a registration; one that fails leaves its mark in the
journal only. -/
def run (s : Stage) : Registration → Stage
  | .definition .engine d => (Script.run (.registerDefinition d) s).2
  | .definition .outside d => (registerApart d s).2
  | .batch .engine text => (Script.run (.loadBatch text) s).2
  | .batch .outside text => (Script.run (.loadApart text) s).2

/-- The definitions of a registration. A batch is read as a whole, and one that
cannot be read has none. -/
inductive Brings : Registration → List Definition → Prop
  | definition {side : Side} {d : Definition} : Brings (.definition side d) [d]
  | batch {side : Side} {text : String} {ds : List Definition}
      (h : Batch.Hold (Text.lines text.toList) ds) :
      Brings (.batch side text) ds
  | noBatch {side : Side} {text : String}
      (h : ¬ ∃ ds, Batch.Hold (Text.lines text.toList) ds) :
      Brings (.batch side text) []

end Registration

/-- The registry that was made outside the engine, by the stage's `handle`. -/
def Stage.outside? (s : Stage) : Option Registry :=
  match s.handle with
  | .none => none
  | .shared => some s.engine.registry
  | .apart r => some r

-- ============================================================== one step

section Step

variable {s : Stage}

/-- What a batch puts into the engine's registry (`Registers`) is what it
`Brings`. -/
theorem Registers.brings_batch {text : String}
    {result : Except Fault Reply} {ds : List Definition}
    (h : Registers (.loadBatch text) result ds) (side : Side) :
    Registration.Brings (.batch side text) ds := by
  cases h with
  | batch hds => exact .batch hds
  | noBatch hnone => exact .noBatch hnone

/-- A registration through the engine goes into the engine's registry. -/
theorem run_engine (s : Stage) {reg : Registration} (h : reg.side = .engine) :
    ∃ ds, reg.Brings ds
      ∧ (reg.run s).unnoted = (s.enrolling ds).unnoted := by
  cases reg with
  | definition side d =>
      cases h
      obtain ⟨ds, hregisters, hstage⟩ :=
        run_registers
          (show (Operation.registerDefinition d).isRegistration
            = true from rfl) s
      generalize (Script.run (.registerDefinition d) s).1
        = result at hregisters
      cases hregisters
      exact ⟨[d], .definition, hstage⟩
  | batch side text =>
      cases h
      obtain ⟨ds, hregisters, hstage⟩ :=
        run_registers
          (show (Operation.loadBatch text).isRegistration = true from rfl) s
      exact ⟨ds, hregisters.brings_batch .engine, hstage⟩

/-- If the handle is `shared`, a registration goes into the engine's registry,
whichever side it comes from. -/
theorem run_shared (hs : s.handle = .shared) (reg : Registration) :
    ∃ ds, reg.Brings ds
      ∧ (reg.run s).unnoted = (s.enrolling ds).unnoted := by
  cases hside : reg.side with
  | engine => exact run_engine s hside
  | outside =>
      cases reg with
      | definition side d =>
          cases hside
          refine ⟨[d], .definition, ?_⟩
          show (registerApart d s).2.unnoted = _
          unfold registerApart
          rw [get_bind_apply, hs]
          rfl
      | batch side text =>
          cases hside
          obtain ⟨ds, hregisters, hstage⟩ :=
            perform_registers Script.run
              (show (Operation.loadBatch text).isRegistration = true from rfl)
              s.afresh
          refine ⟨ds, hregisters.brings_batch .outside, ?_⟩
          show (Script.run (.loadApart text) s).2.unnoted = _
          rw [run_part Stage.unnoted fun _ => rfl]
          have hperform : perform Script.run (.loadApart text) s.afresh
              = perform Script.run (.loadBatch text) s.afresh := by
            show loadApart text s.afresh = loadBatch text s.afresh
            unfold loadApart
            rw [get_bind_apply, show s.afresh.handle = .shared from hs]
          rw [hperform]
          exact hstage

/-- If the handle is `apart`, a direct registration goes into the registry of
the handle, and the engine's stays. -/
theorem run_outside {r : Registry} (hs : s.handle = .apart r)
    {reg : Registration} (h : reg.side = .outside) :
    ∃ ds, reg.Brings ds
      ∧ (reg.run s).unnoted
        = ({ s with handle := .apart (r.registerAll ds) } :
          Stage).unnoted := by
  cases reg with
  | definition side d =>
      cases h
      refine ⟨[d], .definition, ?_⟩
      show (registerApart d s).2.unnoted = _
      unfold registerApart
      rw [get_bind_apply, hs]
      rfl
  | batch side text =>
      cases h
      have hperform : perform Script.run (.loadApart text) s.afresh
          = loadApart text s.afresh := rfl
      show ∃ ds, _ ∧ (Script.run (.loadApart text) s).2.unnoted = _
      rw [run_part Stage.unnoted fun _ => rfl, hperform]
      unfold loadApart
      rw [get_bind_apply, show s.afresh.handle = .apart r from hs]
      dsimp only
      rcases r.loadBatch_cases text.toList
        with ⟨ds, hds, hload⟩ | ⟨number, fault, hstops, hload⟩
      · rw [hload]
        exact ⟨ds, .batch hds, rfl⟩
      · rw [hload]
        refine ⟨[], .noBatch hstops.not_hold, ?_⟩
        show s.unnoted = ({ s with handle := .apart r } : Stage).unnoted
        rw [← hs]

end Step

-- ================================================================= runs

/-- The stage after registrations from both sides, one after another. -/
def registerAlong (regs : List Registration) (s : Stage) : Stage :=
  regs.foldl Registration.run s

/-- What registrations bring, one after another, each definition with its
`Side`. -/
inductive Logs : List Registration → List (Side × Definition) → Prop
  | nil : Logs [] []
  | cons {reg : Registration} {ds : List Definition}
      {regs : List Registration} {log : List (Side × Definition)}
      (first : reg.Brings ds) (rest : Logs regs log) :
      Logs (reg :: regs) (ds.map (reg.side, ·) ++ log)

/-- The definitions of a log that come from `side`. -/
def madeOn (side : Side) (log : List (Side × Definition)) : List Definition :=
  (log.filter fun entry => entry.1 = side).map Prod.snd

theorem madeOn_append (side side' : Side) (ds : List Definition)
    (log : List (Side × Definition)) :
    madeOn side (ds.map (side', ·) ++ log)
      = (if side' = side then ds else []) ++ madeOn side log := by
  by_cases h : side' = side
  · simp [madeOn, List.filter_map, Function.comp_def, h]
  · simp [madeOn, List.filter_map, Function.comp_def, h]

theorem map_snd_append {side : Side} {ds : List Definition}
    {log : List (Side × Definition)} :
    (ds.map (side, ·) ++ log).map Prod.snd = ds ++ log.map Prod.snd := by
  simp [Function.comp_def]

section Run

variable {s : Stage}

/-- If the handle is `shared`, registrations from both sides all go into the
engine's registry. -/
theorem registerAlong_shared (hs : s.handle = .shared)
    (regs : List Registration) :
    ∃ log, Logs regs log
      ∧ (registerAlong regs s).handle = .shared
      ∧ (registerAlong regs s).engine.registry
        = s.engine.registry.registerAll (log.map Prod.snd) := by
  induction regs generalizing s with
  | nil => exact ⟨[], .nil, hs, rfl⟩
  | cons reg rest ih =>
      obtain ⟨ds, hbrings, hstage⟩ := run_shared hs reg
      have hhandle : (reg.run s).handle = .shared :=
        (congrArg Stage.handle hstage).trans hs
      have hregistry : (reg.run s).engine.registry
          = s.engine.registry.registerAll ds :=
        congrArg (fun t : Stage => t.engine.registry) hstage
      obtain ⟨log, hlog, hshared, hall⟩ := ih hhandle
      refine ⟨_, .cons hbrings hlog, hshared, hall.trans ?_⟩
      rw [hregistry, map_snd_append, Registry.registerAll_append]

/-- If the handle is `apart`, those through the engine go into its registry,
and the others into that of the handle. -/
theorem registerAlong_apart {r : Registry} (hs : s.handle = .apart r)
    (regs : List Registration) :
    ∃ log, Logs regs log
      ∧ (registerAlong regs s).handle
        = .apart (r.registerAll (madeOn .outside log))
      ∧ (registerAlong regs s).engine.registry
        = s.engine.registry.registerAll (madeOn .engine log) := by
  induction regs generalizing s r with
  | nil => exact ⟨[], .nil, hs, rfl⟩
  | cons reg rest ih =>
      cases hside : reg.side with
      | engine =>
          obtain ⟨ds, hbrings, hstage⟩ := run_engine s hside
          have hhandle : (reg.run s).handle = .apart r :=
            (congrArg Stage.handle hstage).trans hs
          have hregistry : (reg.run s).engine.registry
              = s.engine.registry.registerAll ds :=
            congrArg (fun t : Stage => t.engine.registry) hstage
          obtain ⟨log, hlog, hapart, hown⟩ := ih hhandle
          refine ⟨_, .cons hbrings hlog, hapart.trans ?_, hown.trans ?_⟩
          · rw [madeOn_append, hside, if_neg nofun, List.nil_append]
          · rw [madeOn_append, hside, if_pos rfl, hregistry,
              Registry.registerAll_append]
      | outside =>
          obtain ⟨ds, hbrings, hstage⟩ := run_outside hs hside
          have hhandle : (reg.run s).handle = .apart (r.registerAll ds) :=
            congrArg Stage.handle hstage
          have hregistry : (reg.run s).engine.registry
            = s.engine.registry := by
            have hengine :=
              congrArg (fun t : Stage => t.engine.registry) hstage
            exact hengine
          obtain ⟨log, hlog, hapart, hown⟩ := ih hhandle
          refine ⟨_, .cons hbrings hlog, hapart.trans ?_, hown.trans ?_⟩
          · rw [madeOn_append, hside, if_pos rfl, Registry.registerAll_append]
          · rw [madeOn_append, hside, if_neg nofun, List.nil_append, hregistry]

end Run

-- ============================================================= agreement

/-- The engine agrees with the registry `r`: the same intents trigger
something, the ids are the same in the same order, and whenever the engine is
idle with the registry that it has now, an input is answered as `r` says, with
an action of the definition that `r` finds. -/
structure AgreesWith (s : Stage) (r : Registry) : Prop where
  triggers : ∀ intent, (run (.ask (.shouldTrigger intent)) s).1
    = .ok (.truth (r.shouldTrigger intent))
  ids : s.engine.registry.ids = r.ids
  activates : ∀ t : Stage, t.engine.registry = s.engine.registry →
    t.engine.active = none → t.Numbered → ∀ text intent, ∃ outcome,
      (run (.handle text intent) t).1 = .ok (.outcome outcome none)
        ∧ Consumes r intent outcome

theorem agreesWith_self (s : Stage) : AgreesWith s s.engine.registry where
  triggers intent := by
    rw [run_result]
    rfl
  ids := rfl
  activates t ht hidle hnumbered text intent := by
    rw [← ht]
    exact run_handle_idle hnumbered hidle text intent

/-- The stage with a new engine over the registry `r`, which was made outside.
-/
def Stage.over (s : Stage) (r : Registry) : Stage :=
  { s with
    engine :=
      { registry := (Handle.adopt (some r)).1, handlers := s.engine.handlers }
    handle := (Handle.adopt (some r)).2
    emitter := {}
    strays := []
    ended := [] }

theorem over_of_empty (s : Stage) {r : Registry} (h : r.ids = []) :
    (s.over r).handle = .apart r ∧ (s.over r).engine.registry = {} := by
  simp [Stage.over, Handle.adopt, h]

theorem over_of_nonempty (s : Stage) {r : Registry} (h : r.ids ≠ []) :
    (s.over r).handle = .shared ∧ (s.over r).engine.registry = r := by
  simp [Stage.over, Handle.adopt, h]

/-- If the handle is `apart`, a definition that is registered directly goes
into the registry of the handle. -/
theorem registerApart_apart {s : Stage} {r : Registry}
    (hs : s.handle = .apart r) (d : Definition) :
    (registerAlong [.definition .outside d] s).outside? = some (r.register d)
      ∧ (registerAlong [.definition .outside d] s).engine.registry
        = s.engine.registry := by
  show (registerApart d s).2.outside? = _
    ∧ (registerApart d s).2.engine.registry = _
  unfold registerApart
  rw [get_bind_apply, hs]
  exact ⟨rfl, rfl⟩

/-- An engine `AgreesWith` the registry that it was given, whatever is
registered later on both sides, if and only if that registry had a definition
when the engine was made. Then all registrations go into the one registry, in
order. If it was empty, those through the engine go into a registry of the
engine's own, and the direct ones into the one that was given. -/
theorem agreesWith_given_iff (s : Stage) (r : Registry) :
    ((∀ regs, ∃ r', (registerAlong regs (s.over r)).outside? = some r'
        ∧ AgreesWith (registerAlong regs (s.over r)) r') ↔ r.ids ≠ [])
      ∧ ∀ regs, ∃ log, Logs regs log
        ∧ (registerAlong regs (s.over r)).outside?
          = some (r.registerAll
            (if r.ids = [] then madeOn .outside log else log.map Prod.snd))
        ∧ (registerAlong regs (s.over r)).engine.registry
          = if r.ids = [] then
              ({} : Registry).registerAll (madeOn .engine log)
            else r.registerAll (log.map Prod.snd) := by
  by_cases hr : r.ids = []
  · obtain ⟨hhandle, hown⟩ := over_of_empty s hr
    refine ⟨⟨fun hall => ?_, fun hne => absurd hr hne⟩, fun regs => ?_⟩
    · -- a definition that is registered directly is not known to the engine
      obtain ⟨r', hr', hagrees⟩ :=
        hall [.definition .outside (usher "greet" "start")]
      obtain ⟨hgiven, hengine⟩ := registerApart_apart hhandle
        (usher "greet" "start")
      cases hgiven.symm.trans hr'
      have hids := hagrees.ids
      rw [hengine, hown, Registry.ids_register, hr, if_neg nofun] at hids
      cases hids
    · obtain ⟨log, hlog, hapart, hregistry⟩ := registerAlong_apart hhandle regs
      refine ⟨log, hlog, ?_, ?_⟩
      · rw [if_pos hr, Stage.outside?, hapart]
      · rw [if_pos hr, hregistry, hown]
  · obtain ⟨hhandle, hgiven⟩ := over_of_nonempty s hr
    refine ⟨⟨fun _ => hr, fun _ regs => ?_⟩, fun regs => ?_⟩
    · obtain ⟨log, -, hshared, -⟩ := registerAlong_shared hhandle regs
      refine ⟨_, ?_, agreesWith_self _⟩
      rw [Stage.outside?, hshared]
    · obtain ⟨log, hlog, hshared, hregistry⟩ :=
        registerAlong_shared hhandle regs
      rw [hgiven] at hregistry
      refine ⟨log, hlog, ?_, ?_⟩
      · rw [if_neg hr, Stage.outside?, hshared, ← hregistry]
      · rw [if_neg hr, hregistry]

/-- A definition that is registered in a registry which was empty when the
engine was made triggers nothing there. -/
theorem empty_registry_dropped :
    let s := registerAlong [.definition .outside (usher "greet" "start")]
      (lobby.over {})
    ∃ r, s.outside? = some r ∧ r.shouldTrigger "start" = true
      ∧ (run (.ask (.shouldTrigger "start")) s).1 = .ok (.truth false) := by
  obtain ⟨hhandle, hown⟩ := over_of_empty lobby (r := {}) rfl
  obtain ⟨hgiven, hengine⟩ :=
    registerApart_apart hhandle (usher "greet" "start")
  refine ⟨_, hgiven, by decide +kernel, ?_⟩
  rw [(agreesWith_self _).triggers, hengine, hown]
  rfl

end Script
end Colloquy
