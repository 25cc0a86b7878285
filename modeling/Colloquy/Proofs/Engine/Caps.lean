/-
What a turn cap makes of an input. At a state of a registered definition an
input that matches no exit phrase is counted, and then one of two things
happens. While the turns in the state are fewer than its cap, or where it
has none, the transitions and the handler of the state decide
(`At.plan_ordinary`). From then on the target of the cap is followed, and
neither the text nor the intent plays a part (`At.plan_redirected`).

A target that leads elsewhere ends the stay (`At.redirected_leaves`); one
that leads back continues it and touches nothing that is remembered
(`At.redirected_returns`). A target that was built by hand may lead nowhere
at all: it is of kind `goto` and lacks the state. Following it breaks a
rule of the engine, which then stays where it is.
-/
import Colloquy.Proofs.Engine.Counts
import Colloquy.Proofs.Engine.Memory

namespace Colloquy

universe u

-- =============================================================== targets

/-- The target is a goto to the state under `key`. -/
def Target.LeadsTo (t : Target) (key : String) : Prop :=
  t.isExit = false ∧ t.state = some key

/-- The target is an exit, or a goto that names a state. -/
def Target.LeadsSomewhere (t : Target) : Prop :=
  t.isExit = true ∨ ∃ key, t.LeadsTo key

namespace Engine

variable {H : Type u}

-- ============================================================= the state

/-- The engine runs an activation `a` of the registered definition `d`, at the
state `s` under `key`. -/
structure At (e : Engine H) (d : Definition) (key : String) (s : State)
    (a : Activation) : Prop where
  active : e.active = some a
  workflow : a.workflow = d.id
  state : a.state = some key
  registered : e.registry.get? d.id = some d
  stated : d.states.get? key = some s

/-- If `place` names a registered definition and one of its states, the engine
is `At` that state. -/
theorem at_of_place {e : Engine H} {d : Definition} {key : String}
    {s : State} (hd : e.registry.get? d.id = some d)
    (hs : d.states.get? key = some s)
    (hplace : e.place = some (d.id, some key)) : ∃ a, e.At d key s a := by
  obtain ⟨a, ha, heq⟩ := Option.map_eq_some_iff.1 hplace
  obtain ⟨hworkflow, hstate⟩ := Prod.mk.inj heq
  exact ⟨a, ha, hworkflow, hstate, hd, hs⟩

variable {e : Engine H} {d : Definition} {key : String} {s : State}
  {a : Activation}

theorem At.place (h : e.At d key s a) : e.place = some (d.id, some key) := by
  rw [place_of_active h.active, h.workflow, h.state]

theorem At.definition (h : e.At d key s a) : e.definition? a = some d := by
  unfold definition?
  rw [h.workflow]
  exact h.registered

theorem At.state? (h : e.At d key s a) : e.state? a = some s := by
  unfold Engine.state?
  rw [h.definition, Option.bind_some, h.state]
  exact h.stated

/-- Where the engine is `At` a state, `counts` says that no exit phrase
matches. -/
theorem At.counts (h : e.At d key s a) (text : String) :
    e.counts text = !d.matchesExitPhrase text := by
  unfold Engine.counts
  rw [h.active, Option.any_some, h.state?, h.definition]
  rfl

-- ================================================================ the cap

/-- The plan without regard to a cap: the input is counted, and the state's
`targetFor` is followed, or else the input is offered to the handler. -/
def ordinary (e : Engine H) (a : Activation) (s : State) (intent : String) :
    Plan H :=
  match s.targetFor intent with
  | some target => (e.running a.counted).follow a.counted target
  | none => (e.running a.counted).offer a.counted s

/-- The plan beyond the cap: the input is counted, and `maxTurnsTarget` is
followed. -/
def redirected (e : Engine H) (a : Activation) (s : State) : Plan H :=
  (e.running a.counted).follow a.counted s.maxTurnsTarget

/-- The log entry for an input beyond a cap. -/
def capEntry (s : State) (cap : Int) : Log.Entry :=
  entry .debug "Turn cap exceeded"
    [("state_id", .string s.id), ("max_turns", .int cap)]

/-- Once the turns in the state reach its `turnCap`, `consider` is
`redirected`, whatever the intent. -/
theorem consider_redirected {cap : Int} (hcap : s.turnCap = some cap)
    (hturn : cap < a.context.stateTurnCount + 1) (e : Engine H)
    (intent : String) :
    e.consider a s intent = (e.redirected a s).after (capEntry s cap) := by
  have hbeyond : s.turnCap.filter
      (a.counted.context.stateTurnCount > ·) = some cap := by
    rw [hcap, Option.filter_some]
    exact if_pos (decide_eq_true hturn)
  rw [consider_eq, State.decide, hbeyond]
  rfl

/-- An input that matches no exit phrase is planned by `consider`. -/
theorem At.plan (h : e.At d key s a) {text : String}
    (hphrase : d.matchesExitPhrase text = false) (intent : String) :
    e.plan text intent = e.consider a s intent := by
  have hcounts : e.counts text = true := by
    rw [h.counts, hphrase]
    rfl
  obtain ⟨s', hs', hplan⟩ := plan_of_counts h.active hcounts intent
  have hsame : s' = s := Option.some.inj (hs'.symm.trans h.state?)
  rw [hplan, hsame]

/-- Up to the cap, the plan is `ordinary`. -/
theorem At.plan_ordinary (h : e.At d key s a) {text : String}
    (hphrase : d.matchesExitPhrase text = false)
    (hcap : ∀ cap, s.turnCap = some cap → a.context.stateTurnCount < cap)
    (intent : String) :
    e.plan text intent = e.ordinary a s intent := by
  have hfree : s.turnCap.filter
      (a.counted.context.stateTurnCount > ·) = none := by
    rw [Option.filter_eq_none_iff]
    intro cap hmem
    have hlt := hcap cap hmem
    have hturn : a.counted.context.stateTurnCount
        = a.context.stateTurnCount + 1 := rfl
    simp only [decide_eq_true_eq]
    omega
  rw [h.plan hphrase, consider_eq]
  unfold State.decide ordinary
  rw [hfree]
  cases s.targetFor intent with
  | none => rfl
  | some target => rfl

/-- Beyond the cap, the plan is `redirected`, with a `capEntry`. -/
theorem At.plan_redirected (h : e.At d key s a) {text : String}
    (hphrase : d.matchesExitPhrase text = false) {cap : Int}
    (hcap : s.turnCap = some cap) (hturn : cap ≤ a.context.stateTurnCount)
    (intent : String) :
    e.plan text intent = (e.redirected a s).after (capEntry s cap) := by
  rw [h.plan hphrase]
  exact consider_redirected hcap (Int.lt_add_one_of_le hturn) e intent

/-- No handler runs in a `redirected` plan. -/
theorem redirected_hook (e : Engine H) (a : Activation) (s : State) :
    (e.redirected a s).course.hook? = none :=
  follow_hook ..

/-- An exit phrase makes the engine idle, and the plan has no `hook?`. -/
theorem At.plan_phrase (h : e.At d key s a) {text : String}
    (hphrase : d.matchesExitPhrase text = true) (intent : String) :
    (e.plan text intent).course.hook? = none
      ∧ (e.plan text intent).carryOut.engine.active = none := by
  have hcounts : e.counts text = false := by
    rw [h.counts, hphrase]
    rfl
  obtain ⟨-, template, hcourse⟩ := plan_uncounted h.active hcounts intent
  unfold Plan.carryOut
  rw [hcourse]
  exact ⟨rfl, rfl⟩

/-- If `maxTurnsTarget` leads somewhere and not to `key`, a `redirected` plan
leaves the state. -/
theorem At.redirected_leaves (h : e.At d key s a)
    (htarget : s.maxTurnsTarget.LeadsSomewhere)
    (haway : ¬ s.maxTurnsTarget.LeadsTo key) (entry : Log.Entry) :
    ((e.redirected a s).after entry).carryOut.engine.place
      ≠ some (d.id, some key) := by
  have hexit : ∀ message entries, ({ (e.running a.counted).exit a.counted
      message with entries } : Plan H).carryOut.engine.place = none :=
    fun _ _ => rfl
  unfold redirected follow
  rcases htarget with hout | ⟨other, hgoto, hother⟩
  · rw [if_pos hout]
    exact (hexit ..).symm ▸ nofun
  · have hne : other ≠ key := by
      rintro rfl
      exact haway ⟨hgoto, hother⟩
    rw [if_neg (Bool.eq_false_iff.1 hgoto), hother]
    dsimp only
    rcases enter_cases (e.running a.counted) a.counted other
        s.maxTurnsTarget.message
      with ⟨warning, heq⟩ | ⟨d', b, template, -, -, hstate, heq⟩
    · rw [heq]
      exact (hexit ..).symm ▸ nofun
    · rw [heq]
      intro hplace
      have hplace : some (b.workflow, b.state) = some (d.id, some key) :=
        hplace
      rw [hstate] at hplace
      exact hne (Option.some.inj (Prod.mk.inj (Option.some.inj hplace)).2)

/-- If `maxTurnsTarget` leads to `key`, a `redirected` plan stays at the state,
and the buffer and the metadata stay. -/
theorem At.redirected_returns (h : e.At d key s a)
    (hback : s.maxTurnsTarget.LeadsTo key) (entry : Log.Entry) :
    ∃ b, ((e.redirected a s).after entry).carryOut.engine.active = some b
      ∧ b.workflow = d.id ∧ b.state = some key
      ∧ b.context.memory = a.context.memory := by
  have hd : (e.running a.counted).definition? a.counted = some d :=
    h.definition
  obtain ⟨b, hab, hstate, heq⟩ :=
    enter_eq hd h.stated s.maxTurnsTarget.message
  have hmemory : b.context.memory = a.counted.context.memory := hab.memory
  refine ⟨b, ?_, hab.workflow.trans h.workflow, hstate, hmemory⟩
  unfold redirected follow
  rw [if_neg (Bool.eq_false_iff.1 hback.1), hback.2]
  dsimp only
  rw [heq]
  rfl

end Engine
end Colloquy
