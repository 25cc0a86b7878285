/-
The ways out of a workflow. There are six. A text matches an exit phrase;
the active state is missing, with its definition or without it; a state
decides on a target, because of its cap or of a transition, and the target
leads out, or to a state that is missing; and a workflow that is activated
has no initial state.

`Engine.WayOut` is the list of them, and it is complete: an input leads out
just where there is a way, and all ways agree on the rest (`plan_leave_iff`).
The message is the one that the target carries if it is of kind `exit`, also
an empty one, and otherwise the exit message that the registry has now
(`Engine.farewell`). A target that leads to a missing state may carry a
message too, but that one was meant for the state, and is not shown.

The ways differ in what is counted. A state that decides has counted the
input before, and nobody else counts it (`WayOut.eq_of_active`).
-/
import Colloquy.Proofs.Engine.Caps

namespace Colloquy

universe u

/-- The target ends a workflow with definition `d`, if there is one; the last
index is the message that is shown in place of the exit message. -/
inductive Target.LeadsOut (d : Option Definition) (t : Target) :
    Option String → Prop
  | exit (hexit : t.isExit = true) : LeadsOut d t t.message
  | dangling {key : String} (hleads : t.LeadsTo key)
      (hmissing : d.bind (·.states.get? key) = none) : LeadsOut d t none

namespace Engine

variable {H : Type u}

/-- The template at the end of a workflow: `override`, or the exit message of
its definition, if it still has one. -/
def farewell (e : Engine H) (workflow : String) (override : Option String) :
    String :=
  override.getD (((e.registry.get? workflow).map (·.exitMessage)).getD "")

/-- The ways out of a workflow for an input, with the activation as it ends and
the template that is shown in place of the exit message. -/
inductive WayOut (e : Engine H) (text intent : String) :
    Activation → Option String → Prop
  | phrase {a : Activation} (hactive : e.active = some a)
      (hends : e.endsBy a text = true) : WayOut e text intent a none
  | vanished {a : Activation} (hactive : e.active = some a)
      (hends : e.endsBy a text = false) (hstate : e.state? a = none) :
      WayOut e text intent a none
  | followed {a : Activation} {s : State} {t : Target}
      {override : Option String} (hactive : e.active = some a)
      (hends : e.endsBy a text = false) (hstate : e.state? a = some s)
      (hdecides : (s.decide (a.context.stateTurnCount + 1) intent).target?
        = some t)
      (hout : t.LeadsOut (e.definition? a) override) :
      WayOut e text intent a.counted override
  | unopened {d : Definition} (hidle : e.active = none)
      (htriggered : e.registry.findByTrigger intent = some d)
      (hmissing : d.states.get? d.initial = none) :
      WayOut e text intent (e.activation d) none

variable {e : Engine H} {a b : Activation} {s : State}
  {text intent template : String} {override : Option String}

-- =========================================================== transitions

/-- What `enter` plans is `leave` just if the state is missing. -/
theorem enter_leave_iff {key : String} {message : Option String} :
    (e.enter a key message).course = .leave b template
      ↔ (e.definition? a).bind (·.states.get? key) = none ∧ b = a
        ∧ template = e.farewell a.workflow none := by
  cases hs : (e.definition? a).bind (·.states.get? key) with
  | none =>
      rw [enter_of_missing hs]
      constructor
      · intro h
        cases h
        exact ⟨rfl, rfl, rfl⟩
      · rintro ⟨-, rfl, rfl⟩
        rfl
  | some s =>
      obtain ⟨d, hd, hs⟩ := Option.bind_eq_some_iff.1 hs
      obtain ⟨c, -, -, heq⟩ := enter_eq hd hs message
      rw [heq]
      exact ⟨nofun, nofun⟩

/-- What `follow` plans is `leave` just if the target `LeadsOut`. -/
theorem follow_leave_iff {t : Target} :
    (e.follow a t).course = .leave b template
      ↔ b = a ∧ ∃ override, t.LeadsOut (e.definition? a) override
        ∧ template = e.farewell a.workflow override := by
  unfold follow
  cases hexit : t.isExit with
  | true =>
      rw [if_pos rfl]
      constructor
      · intro h
        cases h
        exact ⟨rfl, t.message, .exit hexit, rfl⟩
      · rintro ⟨rfl, override, hout, rfl⟩
        cases hout with
        | exit => rfl
        | dangling hleads => cases hexit.symm.trans hleads.1
  | false =>
      rw [if_neg Bool.false_ne_true]
      cases hstate : t.state with
      | none =>
          refine ⟨nofun, ?_⟩
          rintro ⟨-, override, hout, -⟩
          cases hout with
          | exit h => cases hexit.symm.trans h
          | dangling hleads =>
              cases hstate.symm.trans hleads.2
      | some key =>
          rw [enter_leave_iff]
          constructor
          · rintro ⟨hmissing, hb, htemplate⟩
            exact ⟨hb, none, .dangling ⟨hexit, hstate⟩ hmissing, htemplate⟩
          · rintro ⟨hb, override, hout, htemplate⟩
            cases hout with
            | exit h => cases hexit.symm.trans h
            | dangling hleads hmissing =>
                cases hstate.symm.trans hleads.2
                exact ⟨hmissing, hb, htemplate⟩

/-- What `consider` plans is `leave` just if `decide` gives a target that
`LeadsOut`; the input has been counted by then. -/
theorem consider_leave_iff :
    (e.consider a s intent).course = .leave b template
      ↔ b = a.counted ∧ ∃ t override,
        (s.decide (a.context.stateTurnCount + 1) intent).target? = some t
        ∧ t.LeadsOut (e.definition? a) override
        ∧ template = e.farewell a.workflow override := by
  have hfollow : ∀ t,
      ((e.running a.counted).follow a.counted t).course = .leave b template
        ↔ b = a.counted ∧ ∃ t' override, some t = some t'
          ∧ t'.LeadsOut (e.definition? a) override
          ∧ template = e.farewell a.workflow override := by
    intro t
    rw [follow_leave_iff]
    constructor
    · rintro ⟨hb, override, hout, htemplate⟩
      exact ⟨hb, t, override, rfl, hout, htemplate⟩
    · rintro ⟨hb, t', override, ht, hout, htemplate⟩
      cases ht
      exact ⟨hb, override, hout, htemplate⟩
  have hturn : a.counted.context.stateTurnCount
      = a.context.stateTurnCount + 1 := rfl
  rw [consider_eq, hturn]
  cases s.decide (a.context.stateTurnCount + 1) intent with
  | capped cap target => exact hfollow target
  | transition target => exact hfollow target
  | content =>
      refine ⟨fun h => absurd h (offer_stays _ _ _ _ _), ?_⟩
      rintro ⟨-, t, override, ht, -⟩
      cases ht

-- ================================================================ inputs

/-- The definition of a new `activation` is the one that `findByTrigger` found.
-/
theorem definition?_activation {d : Definition}
    (h : e.registry.findByTrigger intent = some d) :
    (e.activating d).definition? (e.activation d) = some d :=
  Registry.get?_of_findByTrigger h

/-- What `plan` gives is `leave` just if there is a `WayOut`, and the template
is the `farewell` that it calls for. -/
theorem plan_leave_iff :
    (e.plan text intent).course = .leave b template
      ↔ ∃ override, e.WayOut text intent b override
        ∧ template = e.farewell b.workflow override := by
  constructor
  · intro h
    cases hactive : e.active with
    | none =>
        rcases plan_idle hactive text intent with ⟨-, heq⟩ | ⟨d, hd, heq, -⟩
        · rw [heq] at h
          cases h
        · rw [heq, Plan.after_course, enter_leave_iff] at h
          obtain ⟨hmissing, rfl, htemplate⟩ := h
          rw [definition?_activation hd] at hmissing
          exact ⟨none, .unopened hactive hd hmissing, htemplate⟩
    | some a =>
        cases hends : e.endsBy a text with
        | true =>
            rw [plan_of_endsBy hactive hends] at h
            cases h
            exact ⟨none, .phrase hactive hends, rfl⟩
        | false =>
            cases hstate : e.state? a with
            | none =>
                rw [plan_of_vanished hactive hends hstate] at h
                cases h
                exact ⟨none, .vanished hactive hends hstate, rfl⟩
            | some s =>
                rw [plan_of_state hactive hends hstate,
                  consider_leave_iff] at h
                obtain ⟨rfl, t, override, hdecides, hout, htemplate⟩ := h
                exact ⟨override,
                  .followed hactive hends hstate hdecides hout, htemplate⟩
  · rintro ⟨override, hway, rfl⟩
    cases hway with
    | phrase hactive hends =>
        rw [plan_of_endsBy hactive hends]
        rfl
    | vanished hactive hends hstate =>
        rw [plan_of_vanished hactive hends hstate]
        rfl
    | followed hactive hends hstate hdecides hout =>
        rw [plan_of_state hactive hends hstate]
        exact consider_leave_iff.2 ⟨rfl, _, _, hdecides, hout, rfl⟩
    | unopened hidle htriggered hmissing =>
        rcases plan_idle hidle text intent
          with ⟨hnone, -⟩ | ⟨d, hd, heq, -⟩
        · cases hnone.symm.trans htriggered
        · rw [heq, Plan.after_course, enter_leave_iff,
            definition?_activation hd]
          cases htriggered.symm.trans hd
          exact ⟨hmissing, rfl, rfl⟩

/-- A workflow whose only transition has a message and leads to a state that is
missing. -/
def misled : Definition where
  id := "misled"
  trigger := "start"
  initial := "a"
  exitMessage := "Over."
  states := .ofList [("a", {
    id := "a"
    onEnter := "Here."
    transitions := .ofList [("go",
      { kind := .goto, state := some "b", message := some "There." })] })]

/-- There the message is not shown. -/
example :
    let e : Engine Unit := {
      registry := ({} : Registry).register misled
      active := some { serial := 0, workflow := "misled", state := some "a" } }
    (e.plan "" "go").course.template? = some "Over." := by decide +kernel

/-- A plan that continues `a` and leaves an activation leaves the one that is
running then; the registry stays. -/
theorem Plan.Continues.leaving {p : Plan H} (hgoes : p.Continues e a)
    (h : p.course = .leave b template) :
    p.engine.active = some b ∧ p.engine.registry = e.registry := by
  have hb : p.course.activation? = some b := by
    rw [h]
    rfl
  obtain ⟨c, -, hengine⟩ := hgoes.engine
  refine ⟨hgoes.course b hb, ?_⟩
  rw [hengine]
  rfl

/-- What `plan` leaves is running in the engine of the plan, and the registry
stays. -/
theorem plan_leaving (h : (e.plan text intent).course = .leave b template) :
    (e.plan text intent).engine.active = some b
      ∧ (e.plan text intent).engine.registry = e.registry := by
  cases hactive : e.active with
  | some a => exact (plan_continues hactive text intent).leaving h
  | none =>
      rcases plan_idle hactive text intent with ⟨-, heq⟩ | ⟨d, -, -, hgoes⟩
      · rw [heq] at h
        cases h
      · exact hgoes.leaving h

/-- From a running engine, a `WayOut` ends `a`, counted if the input `counts`.
-/
theorem WayOut.eq_of_active (h : e.WayOut text intent b override)
    (hactive : e.active = some a) :
    b = if e.counts text then a.counted else a := by
  rw [counts_of_active hactive]
  cases h with
  | phrase ha hends =>
      cases hactive.symm.trans ha
      rw [hends, Bool.not_true, Bool.and_false]
      rfl
  | vanished ha hends hstate =>
      cases hactive.symm.trans ha
      rw [hstate]
      rfl
  | followed ha hends hstate =>
      cases hactive.symm.trans ha
      rw [hstate, hends]
      rfl
  | unopened hidle => cases hactive.symm.trans hidle

/-- From an idle engine, a `WayOut` ends the new `activation` of what the
intent triggers. -/
theorem WayOut.eq_of_idle (h : e.WayOut text intent b override)
    (hidle : e.active = none) :
    ∃ d, e.registry.findByTrigger intent = some d ∧ b = e.activation d := by
  cases h with
  | unopened _ htriggered _ => exact ⟨_, htriggered, rfl⟩
  | phrase hactive | vanished hactive | followed hactive =>
      cases hidle.symm.trans hactive

end Engine
end Colloquy
