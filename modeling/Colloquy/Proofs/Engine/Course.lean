/-
Where an input leads, and what it leaves behind on the way. A plan touches
nothing of the engine but the running activation, and of that one only the
state and the counts of turns: its number, its workflow and what it
remembers go on as they were (`plan_continues`). With nothing running, an
input that triggers nothing leaves everything as it is, and one that
triggers a workflow goes on with an activation that remembers nothing
(`plan_idle`).

One lemma a transition says what it does; everything else about runs of
the engine starts from these.
-/
import Colloquy.Engine

namespace Colloquy

universe u

-- ============================================================ registry

/-- What `findByTrigger` finds is registered under its own id. -/
theorem Registry.get?_of_findByTrigger {r : Registry} {intent : String}
    {d : Definition} (h : r.findByTrigger intent = some d) :
    r.get? d.id = some d := by
  have hmem : d ∈ r.definitions.values := List.mem_of_find?_eq_some h
  obtain ⟨id, hid⟩ := Catalog.exists_get?_of_mem_values hmem
  rw [r.keyed id d hid]
  exact hid

-- ============================================================== states

/-- A capturing state has no transition for any intent. -/
theorem State.targetFor_of_isCapture {s : State} (h : s.isCapture = true)
    (intent : String) : s.targetFor intent = none := by
  have hempty : s.transitions.entries = [] :=
    List.isEmpty_iff.1 (Bool.and_eq_true_iff.1 h).2
  have hnone : ∀ name, s.transitions.get? name = none := by
    intro name
    rw [Catalog.get?, hempty]
    rfl
  rw [State.targetFor, hnone, hnone]
  rfl

/-- What a state decides (`decide`) depends on the intent only through
`targetFor`. -/
theorem State.decide_eq_of_targetFor_eq {s : State} {intent intent' : String}
    (h : s.targetFor intent = s.targetFor intent') (turn : Int) :
    s.decide turn intent = s.decide turn intent' := by
  rw [State.decide, State.decide, h]

-- ========================================================== activations

/-- From `a` to `b` the serial, the workflow, the buffer and the metadata are
the same. -/
structure Activation.Continues (a b : Activation) : Prop where
  serial : b.serial = a.serial
  workflow : b.workflow = a.workflow
  buffer : b.context.buffer = a.context.buffer
  metadata : b.context.metadata = a.context.metadata

theorem Activation.Continues.refl (a : Activation) : a.Continues a :=
  ⟨rfl, rfl, rfl, rfl⟩

theorem Activation.Continues.trans {a b c : Activation}
    (h : a.Continues b) (h' : b.Continues c) : a.Continues c where
  serial := h'.serial.trans h.serial
  workflow := h'.workflow.trans h.workflow
  buffer := h'.buffer.trans h.buffer
  metadata := h'.metadata.trans h.metadata

/-- The activation with one more turn in both counters. -/
def Activation.counted (a : Activation) : Activation :=
  { a with context := a.context.countTurn }

namespace Engine

variable {H : Type u}

/-- The engine with `a` as its active activation. -/
def running (e : Engine H) (a : Activation) : Engine H :=
  { e with active := some a }

/-- The running workflow and its active state. -/
def place (e : Engine H) : Option (String × Option String) :=
  e.active.map fun a => (a.workflow, a.state)

theorem place_eq_of_active {e e' : Engine H} (h : e'.active = e.active) :
    e'.place = e.place := by
  rw [place, place, h]

/-- The `place` determines `workflow?`. -/
theorem workflow?_eq_of_place {e e' : Engine H} (h : e'.place = e.place) :
    e'.workflow? = e.workflow? := by
  have hfst : ∀ e : Engine H, e.workflow? = e.place.map Prod.fst := by
    intro e
    unfold workflow? place
    rw [Option.map_map]
    rfl
  rw [hfst, hfst, h]

/-- Where `place` is none, the engine is idle. -/
theorem active_of_place_eq_none {e : Engine H} (h : e.place = none) :
    e.active = none := Option.map_eq_none_iff.1 h

/-- Writing a context (`writeContext`) keeps the `place`. -/
theorem writeContext_place (e : Engine H) (serial : Nat) (context : Context) :
    (e.writeContext serial context).place = e.place := by
  unfold place writeContext
  cases e.active with
  | none => rfl
  | some a =>
      show some
        ((if a.serial = serial then { a with context } else a).workflow,
          (if a.serial = serial then { a with context } else a).state) = _
      by_cases hserial : a.serial = serial
      · rw [if_pos hserial]
        rfl
      · rw [if_neg hserial]
        rfl

/-- Writing under the serial of the running activation replaces its context. -/
theorem writeContext_running (e : Engine H) (a : Activation)
    (context : Context) :
    (e.running a).writeContext a.serial context
      = e.running { a with context } := by
  unfold writeContext running
  rw [Option.map_some, if_pos rfl]

/-- The new activation of `d`, under the next serial. -/
def activation (e : Engine H) (d : Definition) : Activation :=
  { serial := e.activations, workflow := d.id }

/-- The engine with the new activation of `d` running. -/
def activating (e : Engine H) (d : Definition) : Engine H :=
  { e with
    active := some (e.activation d)
    activations := e.activations + 1 }

/-- The activation that a course leaves, arrives with or captures for. -/
def Course.activation? : Course H → Option Activation
  | .ignored | .failed _ => none
  | .capture _ a _ | .leave a _ | .arrive a _ _ _ => some a

@[simp] theorem Plan.after_course (entry : Log.Entry) (p : Plan H) :
    (p.after entry).course = p.course := rfl

/-- The plan changes nothing of the engine but the activation, which is `a`
continued; its course is about what is running now; and a state that is entered
is one of the same workflow. -/
structure Plan.Continues (e : Engine H) (a : Activation) (p : Plan H) :
    Prop where
  engine : ∃ b, a.Continues b ∧ p.engine = e.running b
  course : ∀ b, p.course.activation? = some b → p.engine.active = some b
  arrives : ∀ b workflow key template,
    p.course = .arrive b workflow key template →
    workflow = a.workflow ∧ b.state = some key

theorem Plan.Continues.after {e : Engine H} {a : Activation} {p : Plan H}
    (h : p.Continues e a) (entry : Log.Entry) :
    (p.after entry).Continues e a :=
  ⟨h.engine, h.course, h.arrives⟩

/-- A plan that continues `b` continues every `a` that `b` continues. -/
theorem Plan.Continues.from {e : Engine H} {a b : Activation} {p : Plan H}
    (hab : a.Continues b)
    (h : p.Continues (e.running b) b) : p.Continues e a := by
  obtain ⟨c, hbc, hc⟩ := h.engine
  refine ⟨⟨c, hab.trans hbc, hc⟩, h.course, ?_⟩
  intro c' workflow key template hcourse
  obtain ⟨hworkflow, hstate⟩ := h.arrives c' workflow key template hcourse
  exact ⟨hworkflow.trans hab.workflow, hstate⟩

-- =========================================================== transitions

variable {e : Engine H} {a : Activation}

theorem running_eq (h : e.active = some a) : e.running a = e := by
  unfold running
  rw [← h]

theorem exit_continues (h : e.active = some a) (message : Option String) :
    (e.exit a message).Continues e a := by
  refine ⟨⟨a, .refl a, (running_eq h).symm⟩, ?_, ?_⟩
  · intro b hb
    cases hb
    exact h
  · intro b workflow key template hcourse
    cases hcourse

/-- Where the state is there, `enter` arrives at it, with `message` as the
template or else the state's own. -/
theorem enter_eq {d : Definition} {s : State} {key : String}
    (hd : e.definition? a = some d) (hs : d.states.get? key = some s)
    (message : Option String) :
    ∃ b, a.Continues b ∧ b.state = some key
      ∧ e.enter a key message
        = { engine := e.running b
            course := .arrive b d.id key (message.getD s.onEnter) } := by
  unfold enter
  rw [hd, Option.bind_some, hs]
  refine ⟨_, ?_, ?_, rfl⟩
  · refine ⟨rfl, rfl, ?_, ?_⟩
    · by_cases hkey : a.state = some key
      · rw [if_pos hkey]
      · rw [if_neg hkey]
    · by_cases hkey : a.state = some key
      · rw [if_pos hkey]
      · rw [if_neg hkey]
  · rfl

/-- Where the state is not there, `enter` is `exit` with a warning. -/
theorem enter_of_missing {key : String}
    (hmissing : (e.definition? a).bind (·.states.get? key) = none)
    (message : Option String) :
    e.enter a key message
      = (e.exit a none).after
        (entry .warning "Transition to undefined state; exiting"
          [("workflow_id", .string a.workflow),
            ("state_id", .string key)]) := by
  unfold enter
  cases hd : e.definition? a with
  | none => rfl
  | some d =>
      rw [hd] at hmissing
      have hkey : d.states.get? key = none := hmissing
      rw [Option.bind_some, hkey]
      rfl

/-- A plan of `enter` is `exit` with a warning, or it arrives at the state. -/
theorem enter_cases (e : Engine H) (a : Activation) (key : String)
    (message : Option String) :
    (∃ warning, e.enter a key message = (e.exit a none).after warning)
      ∨ ∃ d b template, e.definition? a = some d ∧ a.Continues b
        ∧ b.state = some key
        ∧ e.enter a key message
          = { engine := e.running b
              course := .arrive b d.id key template } := by
  cases hs : (e.definition? a).bind (·.states.get? key) with
  | none => exact .inl ⟨_, enter_of_missing hs message⟩
  | some s =>
      obtain ⟨d, hd, hs⟩ := Option.bind_eq_some_iff.1 hs
      obtain ⟨b, hab, hstate, heq⟩ := enter_eq hd hs message
      exact .inr ⟨d, b, _, hd, hab, hstate, heq⟩

theorem enter_continues (h : e.active = some a) (key : String)
    (message : Option String) : (e.enter a key message).Continues e a := by
  rcases enter_cases e a key message
    with ⟨warning, heq⟩ | ⟨d, b, template, hd, hab, hstate, heq⟩
  · rw [heq]
    exact (exit_continues h none).after warning
  · rw [heq]
    refine ⟨⟨b, hab, rfl⟩, ?_, ?_⟩
    · intro c hc
      exact hc
    · intro c workflow key' template' hcourse
      cases hcourse
      exact ⟨e.registry.keyed a.workflow d hd, hstate⟩

theorem follow_continues (h : e.active = some a) (t : Target) :
    (e.follow a t).Continues e a := by
  unfold follow
  by_cases hexit : t.isExit = true
  · rw [if_pos hexit]
    exact exit_continues h t.message
  · rw [if_neg hexit]
    cases t.state with
    | some key => exact enter_continues h key t.message
    | none =>
        exact ⟨⟨a, .refl a, (running_eq h).symm⟩, nofun, nofun⟩

theorem offer_continues (h : e.active = some a) (s : State) :
    (e.offer a s).Continues e a := by
  have hstay : ∃ b, a.Continues b ∧ e = e.running b :=
    ⟨a, .refl a, (running_eq h).symm⟩
  unfold offer
  cases s.handlerName? with
  | none => exact ⟨hstay, nofun, nofun⟩
  | some name =>
      dsimp only
      cases e.handlers.get? name with
      | none => exact ⟨hstay, nofun, nofun⟩
      | some handler =>
          refine ⟨hstay, ?_, nofun⟩
          intro b hb
          cases hb
          exact h

/-- The plan of `consider` counts the input and follows what `decide` says. -/
theorem consider_eq (e : Engine H) (a : Activation) (s : State)
    (intent : String) :
    e.consider a s intent
      = match s.decide a.counted.context.stateTurnCount intent with
        | .capped cap target =>
          ((e.running a.counted).follow a.counted target).after
            (entry .debug "Turn cap exceeded"
              [("state_id", .string s.id), ("max_turns", .int cap)])
        | .transition target => (e.running a.counted).follow a.counted target
        | .content => (e.running a.counted).offer a.counted s := rfl

theorem consider_continues (a : Activation) (s : State) (intent : String) :
    (e.consider a s intent).Continues e a := by
  have hactive : (e.running a.counted).active = some a.counted := rfl
  have hcounted : a.Continues a.counted := ⟨rfl, rfl, rfl, rfl⟩
  refine .from hcounted ?_
  rw [consider_eq]
  cases s.decide a.counted.context.stateTurnCount intent with
  | capped cap target => exact (follow_continues hactive target).after _
  | transition target => exact follow_continues hactive target
  | content => exact offer_continues hactive s

/-- Whether `text` matches an exit phrase of the definition of `a`. -/
def endsBy (e : Engine H) (a : Activation) (text : String) : Bool :=
  (e.definition? a).any (·.matchesExitPhrase text)

/-- An exit phrase is planned by `exit`, whatever the intent. -/
theorem plan_of_endsBy (h : e.active = some a) {text : String}
    (hends : e.endsBy a text = true) (intent : String) :
    e.plan text intent
      = (e.exit a none).after (entry .debug "Exit phrase matched"
        [("workflow_id", .string a.workflow)]) := by
  unfold plan
  rw [h]
  exact if_pos hends

/-- Where `state?` finds nothing, the plan is `exit` with a warning. -/
theorem plan_of_vanished (h : e.active = some a) {text : String}
    (hends : e.endsBy a text = false) (hstate : e.state? a = none)
    (intent : String) :
    e.plan text intent
      = (e.exit a none).after
        (entry .warning "Active state vanished from its definition; exiting"
          [("workflow_id", .string a.workflow),
            ("state_id", optionalText a.state)]) := by
  unfold plan
  rw [h]
  refine (if_neg (Bool.eq_false_iff.1 hends)).trans ?_
  rw [hstate]

/-- Otherwise the plan is `consider` at the active state. -/
theorem plan_of_state (h : e.active = some a) {text : String}
    (hends : e.endsBy a text = false) {s : State}
    (hstate : e.state? a = some s) (intent : String) :
    e.plan text intent = e.consider a s intent := by
  unfold plan
  rw [h]
  refine (if_neg (Bool.eq_false_iff.1 hends)).trans ?_
  rw [hstate]

/-- While `a` is running, the plan for any input continues it. -/
theorem plan_continues (h : e.active = some a) (text intent : String) :
    (e.plan text intent).Continues e a := by
  cases hends : e.endsBy a text with
  | true =>
      rw [plan_of_endsBy h hends]
      exact (exit_continues h none).after _
  | false =>
      cases hstate : e.state? a with
      | none =>
          rw [plan_of_vanished h hends hstate]
          exact (exit_continues h none).after _
      | some s =>
          rw [plan_of_state h hends hstate]
          exact consider_continues a s intent

/-- From an idle engine, the input is ignored if `findByTrigger` finds nothing;
else the plan continues the new `activation` of what it finds. -/
theorem plan_idle (h : e.active = none) (text intent : String) :
    (e.registry.findByTrigger intent = none
        ∧ e.plan text intent = { engine := e, course := .ignored })
      ∨ ∃ d, e.registry.findByTrigger intent = some d
        ∧ e.plan text intent
          = ((e.activating d).enter (e.activation d) d.initial none).after
            (entry .info "Workflow activated"
              [("workflow_id", .string d.id), ("intent", .string intent)])
        ∧ (e.plan text intent).Continues (e.activating d)
          (e.activation d) := by
  have hplan : e.plan text intent = e.activate intent := by
    unfold plan
    rw [h]
  rw [hplan]
  unfold activate
  cases e.registry.findByTrigger intent with
  | none => exact .inl ⟨rfl, rfl⟩
  | some d =>
      have hactive : (e.activating d).active = some (e.activation d) := rfl
      exact .inr
        ⟨d, rfl, rfl, (enter_continues hactive d.initial none).after _⟩

-- =============================================================== handlers

/-- The handler of a `capture`. -/
def Course.hook? : Course H → Option H
  | .capture hook _ _ => some hook
  | _ => none

/-- The handler that the active state names, as the table has it. -/
def named? (e : Engine H) : Option H :=
  (e.active.bind e.state?).bind fun s =>
    s.handlerName?.bind e.handlers.get?

theorem enter_hook (e : Engine H) (a : Activation) (key : String)
    (message : Option String) :
    (e.enter a key message).course.hook? = none := by
  rcases enter_cases e a key message
    with ⟨warning, heq⟩ | ⟨d, b, template, -, -, -, heq⟩
  · rw [heq]
    rfl
  · rw [heq]
    rfl

theorem follow_hook (e : Engine H) (a : Activation) (t : Target) :
    (e.follow a t).course.hook? = none := by
  unfold follow
  by_cases hexit : t.isExit = true
  · rw [if_pos hexit]
    rfl
  · rw [if_neg hexit]
    cases t.state with
    | none => rfl
    | some key => exact enter_hook e a key t.message

theorem offer_hook (e : Engine H) (a : Activation) (s : State) :
    (e.offer a s).course.hook? = s.handlerName?.bind e.handlers.get? := by
  unfold offer
  cases s.handlerName? with
  | none => rfl
  | some name =>
      dsimp only [Option.bind_some]
      cases e.handlers.get? name <;> rfl

/-- A plan of `consider` captures only for the handler that the state names. -/
theorem consider_hook {s : State} {intent : String} {hook : H}
    (h : (e.consider a s intent).course.hook? = some hook) :
    s.handlerName?.bind e.handlers.get? = some hook := by
  have hnone : ∀ t,
      ((e.running a.counted).follow a.counted t).course.hook?
        ≠ some hook := by
    intro t
    rw [follow_hook]
    exact nofun
  rw [consider_eq] at h
  cases hdecide : s.decide a.counted.context.stateTurnCount intent with
  | capped cap target =>
      rw [hdecide] at h
      exact absurd h (hnone target)
  | transition target =>
      rw [hdecide] at h
      exact absurd h (hnone target)
  | content =>
      rw [hdecide] at h
      have h : ((e.running a.counted).offer a.counted s).course.hook?
          = some hook := h
      rw [offer_hook] at h
      exact h

/-- A `plan` that captures is `consider` at the active state. -/
theorem plan_considers {text intent : String} {hook : H}
    (h : (e.plan text intent).course.hook? = some hook) :
    ∃ a s, e.active = some a ∧ e.state? a = some s
      ∧ e.plan text intent = e.consider a s intent := by
  cases hactive : e.active with
  | none =>
      rcases plan_idle hactive text intent with ⟨-, heq⟩ | ⟨d, -, heq, -⟩
      · rw [heq] at h
        cases h
      · rw [heq, Plan.after_course, enter_hook] at h
        cases h
  | some a =>
      cases hends : e.endsBy a text with
      | true =>
          rw [plan_of_endsBy hactive hends] at h
          cases h
      | false =>
          cases hstate : e.state? a with
          | none =>
              rw [plan_of_vanished hactive hends hstate] at h
              cases h
          | some s =>
              exact ⟨a, s, rfl, hstate,
                plan_of_state hactive hends hstate intent⟩

/-- A `plan` captures only for the handler that is `named?` by the active
state. -/
theorem plan_hook {text intent : String} {hook : H}
    (h : (e.plan text intent).course.hook? = some hook) :
    e.named? = some hook := by
  obtain ⟨a, s, hactive, hstate, hplan⟩ := plan_considers h
  rw [hplan] at h
  rw [named?, hactive, Option.bind_some, hstate]
  exact consider_hook h

/-- If `consider` captures, then it does so at `s` itself, for `a.counted`, and
has done nothing but count. -/
theorem consider_capture {s s' : State} {intent : String} {hook : H}
    {b : Activation}
    (h : (e.consider a s intent).course = .capture hook b s') :
    s' = s ∧ b = a.counted
      ∧ e.consider a s intent
        = { engine := e.running a.counted
            course := .capture hook a.counted s } := by
  have hfollow : ∀ t,
      ((e.running a.counted).follow a.counted t).course
        ≠ .capture hook b s' := by
    intro t hcourse
    have hnone := follow_hook (e.running a.counted) a.counted t
    rw [hcourse] at hnone
    cases hnone
  rw [consider_eq] at h ⊢
  cases hdecide : s.decide a.counted.context.stateTurnCount intent with
  | capped cap target =>
      rw [hdecide] at h
      exact absurd h (hfollow target)
  | transition target =>
      rw [hdecide] at h
      exact absurd h (hfollow target)
  | content =>
      rw [hdecide] at h
      dsimp only at h ⊢
      unfold offer at h ⊢
      cases hname : s.handlerName? with
      | none =>
          rw [hname] at h
          cases h
      | some name =>
          rw [hname] at h
          dsimp only at h ⊢
          cases hfound : (e.running a.counted).handlers.get? name with
          | none =>
              rw [hfound] at h
              cases h
          | some handler =>
              rw [hfound] at h
              cases h
              exact ⟨rfl, rfl, rfl⟩

/-- If `plan` captures, a workflow is running at a state that is there, and
nothing but the count has changed. -/
theorem plan_capture {text intent : String} {hook : H} {b : Activation}
    {s : State} (h : (e.plan text intent).course = .capture hook b s) :
    ∃ a, e.active = some a ∧ e.state? a = some s ∧ b = a.counted
      ∧ e.plan text intent
        = { engine := e.running a.counted
            course := .capture hook a.counted s } := by
  have hhook : (e.plan text intent).course.hook? = some hook := by
    rw [h]
    rfl
  obtain ⟨a, s', hactive, hstate, hplan⟩ := plan_considers hhook
  rw [hplan] at h ⊢
  obtain ⟨rfl, rfl, heq⟩ := consider_capture h
  exact ⟨a, hactive, hstate, rfl, heq⟩

/-- Every plan of `enter` has a template for its message. -/
theorem enter_template (e : Engine H) (a : Activation) (key : String)
    (message : Option String) :
    (e.enter a key message).course.template? ≠ none := by
  rcases enter_cases e a key message
    with ⟨warning, heq⟩ | ⟨d, b, template, -, -, -, heq⟩
  · rw [heq]
    exact nofun
  · rw [heq]
    exact nofun

-- ============================================================= workflows

theorem Plan.Continues.workflow? {p : Plan H} (h : p.Continues e a) :
    p.engine.workflow? = some a.workflow := by
  obtain ⟨b, hab, heq⟩ := h.engine
  rw [heq, ← hab.workflow]
  rfl

/-- The activation of a course belongs to the workflow that was running, or to
the one that is activated. -/
theorem plan_workflow {text intent : String} {b : Activation}
    (h : (e.plan text intent).course.activation? = some b) :
    ∃ e' a, (e.plan text intent).Continues e' a
      ∧ a.workflow = b.workflow
      ∧ (e.workflow? = none ∨ e.workflow? = some b.workflow) := by
  have hsame : ∀ {e' a}, (e.plan text intent).Continues e' a →
      a.workflow = b.workflow := by
    intro e' a hgoes
    have hb : (e.plan text intent).engine.workflow? = some b.workflow :=
      congrArg (Option.map Activation.workflow) (hgoes.course b h)
    rw [hgoes.workflow?] at hb
    exact Option.some.inj hb
  cases hactive : e.active with
  | some a =>
      have hgoes := plan_continues hactive text intent
      have hrunning : e.workflow? = some a.workflow :=
        congrArg (Option.map Activation.workflow) hactive
      exact ⟨e, a, hgoes, hsame hgoes, .inr (by rw [hrunning, hsame hgoes])⟩
  | none =>
      have hidle : e.workflow? = none :=
        congrArg (Option.map Activation.workflow) hactive
      rcases plan_idle hactive text intent with ⟨-, heq⟩ | ⟨d, -, -, hgoes⟩
      · rw [heq] at h
        cases h
      · exact ⟨_, _, hgoes, hsame hgoes, .inl hidle⟩

/-- A plan without a template leaves `workflow?` as it is. -/
theorem plan_rest {text intent : String}
    (h : (e.plan text intent).course.template? = none) :
    (e.plan text intent).engine.workflow? = e.workflow? := by
  cases hactive : e.active with
  | some a =>
      rw [(plan_continues hactive text intent).workflow?]
      exact (congrArg (Option.map Activation.workflow) hactive).symm
  | none =>
      rcases plan_idle hactive text intent with ⟨-, heq⟩ | ⟨d, -, heq, -⟩
      · rw [heq]
      · rw [heq] at h
        exact absurd h (enter_template _ _ _ _)

-- =========================================================== carrying out

/-- What `carryOut` leaves is the `place` of the plan, or an idle engine. -/
theorem Plan.carryOut_place (p : Plan H) :
    p.carryOut.engine.place = p.engine.place
      ∨ p.carryOut.engine.active = none := by
  obtain ⟨engine, entries, course⟩ := p
  cases course with
  | leave a template => exact .inr rfl
  | _ => exact .inl rfl

/-- If a step is an `exitWorkflow`, the course was `leave`. -/
theorem Plan.course_of_exit {p : Plan H} {workflow message : String}
    {context : Context}
    (h : p.carryOut.step
      = .settled (.done (.exitWorkflow workflow message context))) :
    ∃ a template, p.course = .leave a template ∧ workflow = a.workflow
      ∧ context = a.context ∧ message = Template.render template context := by
  obtain ⟨engine, entries, course⟩ := p
  cases course with
  | leave a template =>
      cases h
      exact ⟨a, template, rfl, rfl, rfl, rfl⟩
  | _ => cases h

/-- If a step is an `enterState`, the course was `arrive`. -/
theorem Plan.course_of_enter {p : Plan H} {workflow key message : String}
    (h : p.carryOut.step
      = .settled (.done (.enterState workflow key message))) :
    ∃ a template, p.course = .arrive a workflow key template
      ∧ message = Template.render template a.context := by
  obtain ⟨engine, entries, course⟩ := p
  cases course with
  | arrive a workflow key template =>
      cases h
      exact ⟨a, template, rfl, rfl⟩
  | _ => cases h

end Engine
end Colloquy
