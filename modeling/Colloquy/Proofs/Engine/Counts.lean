/-
How an input is counted. Whether it is counted can be read off the engine
and the text: a workflow is running, its active state is there, and no exit
phrase ends it (`counts`). What a plan does to the two counts of turns
follows from that alone. An input that is counted adds one turn to each
count before the state decides on it; a state that is entered starts its
own count anew unless it was active before (`plan_counted`). An input that
is not counted ends the workflow as it stands (`plan_uncounted`), and with
nothing running the counts start from zero (`plan_starting`).
-/
import Colloquy.Proofs.Engine.Sound

namespace Colloquy

universe u

-- ============================================================= standings

/-- The counters of an activation with its place: what moves when inputs are
counted. Buffer and metadata are left out. -/
structure Standing where
  workflow : String
  state : Option String
  turns : Int
  stateTurns : Int

/-- The workflow and the state of a standing. -/
def Standing.place (st : Standing) : String × Option String :=
  (st.workflow, st.state)

/-- The `Standing` of an activation. -/
def Activation.standing (a : Activation) : Standing where
  workflow := a.workflow
  state := a.state
  turns := a.context.turnCount
  stateTurns := a.context.stateTurnCount

/-- From `a` to `b` no turn is counted, and `stateTurnCount` starts anew if the
state is another one. -/
structure Activation.Moves (a b : Activation) : Prop where
  turns : b.context.turnCount = a.context.turnCount
  stateTurns : b.context.stateTurnCount
    = if b.state = a.state then a.context.stateTurnCount else 0

theorem Activation.Moves.refl (a : Activation) : a.Moves a :=
  ⟨rfl, (if_pos rfl).symm⟩

namespace Engine

variable {H : Type u}

/-- The `Standing` of the running activation. -/
def standing (e : Engine H) : Option Standing :=
  e.active.map Activation.standing

theorem place_of_active {e : Engine H} {a : Activation}
    (h : e.active = some a) : e.place = some (a.workflow, a.state) := by
  unfold place
  rw [h]
  rfl

theorem place_of_idle {e : Engine H} (h : e.active = none) :
    e.place = none := by
  unfold place
  rw [h]
  rfl

theorem isActive_of_active {e : Engine H} {a : Activation}
    (h : e.active = some a) : e.isActive = true := by
  unfold isActive
  rw [h]
  rfl

theorem isActive_of_idle {e : Engine H} (h : e.active = none) :
    e.isActive = false := by
  unfold isActive
  rw [h]
  rfl

/-- Whether an input with this text is counted: a workflow is running, its
active state is there, and no exit phrase ends it. -/
def counts (e : Engine H) (text : String) : Bool :=
  e.active.any fun a => (e.state? a).isSome
    && !(e.definition? a).any (·.matchesExitPhrase text)

/-- What runs after the plan is `a` moved on, and what the plan leaves is `a`
itself. -/
structure Plan.Moves (a : Activation) (p : Plan H) : Prop where
  running : ∀ b, p.engine.active = some b → a.Moves b
  leaving : ∀ b template, p.course = .leave b template → b = a

theorem Plan.Moves.after {a : Activation} {p : Plan H} (h : p.Moves a)
    (entry : Log.Entry) : (p.after entry).Moves a :=
  ⟨h.running, h.leaving⟩

-- =========================================================== transitions

variable {e : Engine H} {a : Activation}

theorem exit_moves (h : e.active = some a) (message : Option String) :
    (e.exit a message).Moves a := by
  constructor
  · intro b hb
    have hab : a = b := Option.some.inj (h.symm.trans hb)
    rw [← hab]
    exact .refl a
  · intro b template hcourse
    cases hcourse
    rfl

/-- A plan that changes nothing and leaves nothing is one that `Moves`. -/
theorem stay_moves (h : e.active = some a) {p : Plan H} (hp : p.engine = e)
    (hcourse : ∀ b template, p.course ≠ .leave b template) : p.Moves a := by
  refine ⟨?_, fun b template hleave => absurd hleave (hcourse b template)⟩
  rw [hp]
  exact (exit_moves h none).running

/-- Both cases of `enter` are plans that `Moves`. -/
theorem enter_moves (h : e.active = some a) (key : String)
    (message : Option String) : (e.enter a key message).Moves a := by
  unfold enter
  cases (e.definition? a).bind fun d =>
      (d.states.get? key).map fun s => (d, s) with
  | none => exact (exit_moves h none).after _
  | some found =>
      refine ⟨?_, nofun⟩
      intro b hb
      cases hb
      by_cases hkey : a.state = some key
      · simp only [if_pos hkey]
        exact ⟨rfl, (if_pos hkey.symm).symm⟩
      · simp only [if_neg hkey]
        exact ⟨rfl, (if_neg (Ne.symm hkey)).symm⟩

theorem follow_moves (h : e.active = some a) (t : Target) :
    (e.follow a t).Moves a := by
  unfold follow
  by_cases hexit : t.isExit = true
  · rw [if_pos hexit]
    exact exit_moves h t.message
  · rw [if_neg hexit]
    cases t.state with
    | some key => exact enter_moves h key t.message
    | none => exact stay_moves h rfl nofun

/-- A plan of `offer` leaves no activation. -/
theorem offer_stays (e : Engine H) (a : Activation) (s : State)
    (b : Activation) (template : String) :
    (e.offer a s).course ≠ .leave b template := by
  unfold offer
  cases s.handlerName? with
  | none => exact nofun
  | some name =>
      dsimp only
      cases e.handlers.get? name with
      | none => exact nofun
      | some handler => exact nofun

theorem offer_moves (h : e.active = some a) (s : State) :
    (e.offer a s).Moves a := by
  unfold offer
  cases s.handlerName? with
  | none => exact stay_moves h rfl nofun
  | some name =>
      dsimp only
      cases e.handlers.get? name with
      | none => exact stay_moves h rfl nofun
      | some handler => exact stay_moves h rfl nofun

/-- A plan of `consider` moves from `a.counted`. -/
theorem consider_moves (s : State) (intent : String) :
    (e.consider a s intent).Moves a.counted := by
  have hactive : (e.running a.counted).active = some a.counted := rfl
  rw [consider_eq]
  cases s.decide a.counted.context.stateTurnCount intent with
  | capped cap target => exact (follow_moves hactive target).after _
  | transition target => exact follow_moves hactive target
  | content => exact offer_moves hactive s

-- ================================================================ inputs

theorem counts_of_active (h : e.active = some a) (text : String) :
    e.counts text = ((e.state? a).isSome && !e.endsBy a text) := by
  rw [counts, h]
  rfl

/-- An input that `counts` is planned by `consider` at the active state. -/
theorem plan_of_counts (h : e.active = some a) {text : String}
    (hcounts : e.counts text = true) (intent : String) :
    ∃ s, e.state? a = some s ∧ e.plan text intent = e.consider a s intent := by
  rw [counts_of_active h, Bool.and_eq_true] at hcounts
  obtain ⟨hstate, hends⟩ := hcounts
  obtain ⟨s, hs⟩ := Option.isSome_iff_exists.1 hstate
  have hends : e.endsBy a text = false := (Bool.not_eq_true' _).mp hends
  exact ⟨s, hs, plan_of_state h hends hs intent⟩

/-- The plan for an input that `counts` moves from `a.counted`. -/
theorem plan_counted (h : e.active = some a) {text : String}
    (hcounts : e.counts text = true) (intent : String) :
    (e.plan text intent).Moves a.counted := by
  obtain ⟨s, -, hplan⟩ := plan_of_counts h hcounts intent
  rw [hplan]
  exact consider_moves s intent

/-- An input that does not count leaves the activation as it is: `leave` with
`a` itself. -/
theorem plan_uncounted (h : e.active = some a) {text : String}
    (hcounts : e.counts text = false) (intent : String) :
    (e.plan text intent).engine = e
      ∧ ∃ template, (e.plan text intent).course = .leave a template := by
  cases hends : e.endsBy a text with
  | true =>
      rw [plan_of_endsBy h hends]
      exact ⟨rfl, _, rfl⟩
  | false =>
      cases hstate : e.state? a with
      | none =>
          rw [plan_of_vanished h hends hstate]
          exact ⟨rfl, _, rfl⟩
      | some s =>
          rw [counts_of_active h, hstate, hends] at hcounts
          cases hcounts

/-- From an idle engine, an activation that starts has both counters at zero,
also if it is left at once. -/
theorem plan_starting (h : e.active = none) (text intent : String)
    {b : Activation} (hb : (e.plan text intent).engine.active = some b
      ∨ ∃ template, (e.plan text intent).course = .leave b template) :
    b.context.turnCount = 0 ∧ b.context.stateTurnCount = 0 := by
  rcases plan_idle h text intent with ⟨-, heq⟩ | ⟨d, -, heq, -⟩
  · rw [heq] at hb
    rcases hb with hb | ⟨template, hleave⟩
    · exact absurd (h.symm.trans hb) nofun
    · cases hleave
  · have hactive : (e.activating d).active = some (e.activation d) := rfl
    have hmoves := (enter_moves hactive d.initial none).after
      (entry .info "Workflow activated"
        [("workflow_id", .string d.id), ("intent", .string intent)])
    rw [heq] at hb
    rcases hb with hb | ⟨template, hleave⟩
    · obtain ⟨hturns, hstate⟩ := hmoves.running b hb
      refine ⟨hturns, hstate.trans ?_⟩
      split <;> rfl
    · rw [hmoves.leaving b template hleave]
      exact ⟨rfl, rfl⟩

/-- If the plan for an input that `counts` leaves the workflow, the state's
`decide` gave a target. -/
theorem plan_follows (h : e.active = some a) {text : String}
    (hcounts : e.counts text = true) {intent : String} {b : Activation}
    {template : String}
    (hleave : (e.plan text intent).course = .leave b template) :
    ∃ s t, e.state? a = some s
      ∧ (s.decide (a.context.stateTurnCount + 1) intent).target?
        = some t := by
  obtain ⟨s, hs, hplan⟩ := plan_of_counts h hcounts intent
  have hturn : a.counted.context.stateTurnCount
      = a.context.stateTurnCount + 1 := rfl
  rw [hplan, consider_eq, hturn] at hleave
  refine ⟨s, ?_⟩
  cases hdecide : s.decide (a.context.stateTurnCount + 1) intent with
  | capped cap target => exact ⟨target, hs, rfl⟩
  | transition target => exact ⟨target, hs, rfl⟩
  | content =>
      rw [hdecide] at hleave
      exact absurd hleave (offer_stays _ _ _ _ _)

end Engine
end Colloquy
