/-
Engines that no input can break. Where every target of a registered
definition leads somewhere, and a running workflow has a state, an input
leads somewhere too (`plan_whole`), whatever else is wrong with the
definitions: keys that are not ids, targets and first states that there are
not, caps below zero, a state or a definition that is gone by now. All of
these end in an exit.

Such an engine stays fit, and if a workflow is still running after an input
its state is one of the definition that the registry has (`Engine.Keyed`).
The rule about targets is the only one that a definition can break, and
definitions from records do not break it (`Definition.Canonical.leads`).
-/
import Colloquy.Proofs.Engine.Caps
import Colloquy.Proofs.Record.Codec
import Colloquy.Proofs.Registry

namespace Colloquy

universe u

-- ================================================================ targets

/-- Every target of the state `LeadsSomewhere`. -/
structure State.Leads (s : State) : Prop where
  transitions : ∀ entry ∈ s.transitions.entries, entry.2.LeadsSomewhere
  maxTurnsTarget : s.maxTurnsTarget.LeadsSomewhere

/-- Every state of the definition `Leads`. -/
def Definition.Leads (d : Definition) : Prop :=
  ∀ entry ∈ d.states.entries, entry.2.Leads

/-- Every definition of the registry `Leads`. -/
def Registry.Leads (r : Registry) : Prop :=
  ∀ id d, r.get? id = some d → d.Leads

theorem Target.Canonical.leads {t : Target} (h : t.Canonical) :
    t.LeadsSomewhere := by
  obtain ⟨kind, state, message⟩ := t
  cases kind with
  | exit => exact .inl rfl
  | goto =>
      obtain ⟨key, hkey, -⟩ := h
      exact .inr ⟨key, rfl, hkey⟩

/-- A `Canonical` definition, such as is read from a record, `Leads`. -/
theorem Definition.Canonical.leads {d : Definition} (h : d.Canonical) :
    d.Leads := fun entry hentry =>
  ⟨fun target htarget =>
    ((h.states entry hentry).transitions target htarget).leads,
    (h.states entry hentry).maxTurnsTarget.leads⟩

theorem Registry.leads_empty : ({} : Registry).Leads := by
  intro id d hd
  cases hd

/-- If a registry and the definitions registered in it lead somewhere, so does
what `registerAll` gives. -/
theorem Registry.Leads.registerAll {r : Registry} (hr : r.Leads)
    {ds : List Definition} (hds : ∀ d ∈ ds, d.Leads) :
    (r.registerAll ds).Leads := by
  intro id d hd
  rw [get?_registerAll] at hd
  cases hlatest : latest? ds id with
  | none =>
      rw [hlatest] at hd
      exact hr id d hd
  | some d' =>
      rw [hlatest] at hd
      cases hd
      exact hds d (List.mem_reverse.1 (List.mem_of_find?_eq_some hlatest))

/-- What `targetFor` finds in such a state leads somewhere. -/
theorem State.Leads.targetFor {s : State} (h : s.Leads) {intent : String}
    {t : Target} (ht : s.targetFor intent = some t) : t.LeadsSomewhere := by
  have hget : ∀ name, s.transitions.get? name = some t →
      t.LeadsSomewhere := fun name hname =>
    h.transitions _ (Catalog.mem_entries_of_get? hname)
  unfold State.targetFor at ht
  rcases Option.or_eq_some_iff.1 ht with hintent | ⟨-, hwildcard⟩
  · exact hget intent hintent
  · exact hget State.wildcard hwildcard

/-- What `decide` gives as a target in such a state leads somewhere. -/
theorem State.Leads.decide {s : State} (h : s.Leads) {turn : Int}
    {intent : String} {t : Target}
    (ht : (s.decide turn intent).target? = some t) : t.LeadsSomewhere := by
  unfold State.decide at ht
  cases hcap : s.turnCap.filter (turn > ·) with
  | some cap =>
      rw [hcap] at ht
      cases ht
      exact h.maxTurnsTarget
  | none =>
      rw [hcap] at ht
      cases htarget : s.targetFor intent with
      | some target =>
          rw [htarget] at ht
          cases ht
          exact h.targetFor htarget
      | none =>
          rw [htarget] at ht
          cases ht

namespace Engine

variable {H : Type u} {e : Engine H} {a : Activation}

-- ============================================================= invariants

/-- The state of the running workflow is a key of the definition that the
registry has for it. -/
def Keyed (e : Engine H) : Prop :=
  ∀ workflow state, e.place = some (workflow, state) →
    ∃ d key s, e.registry.get? workflow = some d ∧ state = some key
      ∧ d.states.get? key = some s

/-- Every definition `Leads`, and a running workflow has a state id. -/
structure Fit (e : Engine H) : Prop where
  leads : e.registry.Leads
  placed : ∀ workflow state, e.place = some (workflow, state) →
    state ≠ none

theorem keyed_of_idle (h : e.active = none) : e.Keyed := by
  intro workflow state hplace
  rw [place, h] at hplace
  cases hplace

/-- The course of the plan is no `failed`, and `carryOut` leaves the registry
as it is and an engine that is `Keyed`. -/
structure Plan.Whole (e : Engine H) (p : Plan H) : Prop where
  whole : ∀ fault, p.course ≠ .failed fault
  registry : p.carryOut.engine.registry = e.registry
  keyed : p.carryOut.engine.Keyed

theorem Plan.Whole.after {p : Plan H} (h : p.Whole e) (entry : Log.Entry) :
    (p.after entry).Whole e := by
  obtain ⟨engine, entries, course⟩ := p
  obtain ⟨hwhole, hregistry, hkeyed⟩ := h
  cases course with
  | _ => exact ⟨hwhole, hregistry, hkeyed⟩

/-- The step of such a plan is no `failed` either. -/
theorem Plan.Whole.step {p : Plan H} (h : p.Whole e) (fault : Fault) :
    p.carryOut.step ≠ .failed fault := by
  obtain ⟨engine, entries, course⟩ := p
  intro hstep
  cases course with
  | failed fault' => exact h.whole fault' rfl
  | _ => cases hstep

-- ============================================================ transitions

theorem exit_whole (e : Engine H) (a : Activation) (message : Option String) :
    (e.exit a message).Whole e :=
  ⟨nofun, rfl, keyed_of_idle rfl⟩

theorem enter_whole (e : Engine H) (a : Activation) (key : String)
    (message : Option String) : (e.enter a key message).Whole e := by
  cases hs : (e.definition? a).bind (·.states.get? key) with
  | none =>
      rw [enter_of_missing hs]
      exact (exit_whole e a none).after _
  | some s =>
      obtain ⟨d, hd, hs⟩ := Option.bind_eq_some_iff.1 hs
      obtain ⟨b, hab, hstate, heq⟩ := enter_eq hd hs message
      rw [heq]
      refine ⟨nofun, rfl, ?_⟩
      intro workflow state hplace
      obtain ⟨hworkflow, hkey⟩ := Prod.mk.inj (Option.some.inj hplace)
      refine ⟨d, key, s, ?_, hkey.symm.trans hstate, hs⟩
      rw [← hworkflow, hab.workflow]
      exact hd

theorem follow_whole (e : Engine H) (a : Activation) {t : Target}
    (ht : t.LeadsSomewhere) : (e.follow a t).Whole e := by
  unfold follow
  rcases ht with hexit | ⟨key, hgoto, hkey⟩
  · rw [if_pos hexit]
    exact exit_whole e a t.message
  · rw [if_neg (by rw [hgoto]; exact Bool.false_ne_true), hkey]
    exact enter_whole e a key t.message

theorem offer_whole {s : State} (hkeyed : e.Keyed) :
    (e.offer a s).Whole e := by
  unfold offer
  cases s.handlerName? with
  | none => exact ⟨nofun, rfl, hkeyed⟩
  | some name =>
      dsimp only
      cases e.handlers.get? name with
      | none => exact ⟨nofun, rfl, hkeyed⟩
      | some handler => exact ⟨nofun, rfl, hkeyed⟩

/-- If `state?` finds a state for `a`, the engine that runs `a` is `Keyed`. -/
theorem keyed_of_state? {s : State} (h : e.state? a = some s) :
    (e.running a).Keyed := by
  obtain ⟨d, hd, hs⟩ := Option.bind_eq_some_iff.1 h
  obtain ⟨key, hkey, hs⟩ := Option.bind_eq_some_iff.1 hs
  intro workflow state hplace
  obtain ⟨hworkflow, hstate⟩ := Prod.mk.inj (Option.some.inj hplace)
  refine ⟨d, key, s, ?_, hstate.symm.trans hkey, hs⟩
  rw [← hworkflow]
  exact hd

theorem consider_whole {s : State} (hs : e.state? a = some s)
    (hleads : s.Leads) (intent : String) :
    (e.consider a s intent).Whole e := by
  have hkeyed : (e.running a.counted).Keyed :=
    keyed_of_state? (a := a.counted) (e := e) hs
  have hwhole : ∀ {p : Plan H}, p.Whole (e.running a.counted) → p.Whole e :=
    fun h => ⟨h.whole, h.registry, h.keyed⟩
  refine hwhole ?_
  rw [consider_eq]
  have htarget : ∀ t, (s.decide a.counted.context.stateTurnCount
      intent).target? = some t → t.LeadsSomewhere := fun _ => hleads.decide
  generalize s.decide a.counted.context.stateTurnCount intent = decision
    at htarget ⊢
  cases decision with
  | capped cap target =>
      exact (follow_whole _ _ (htarget target rfl)).after _
  | transition target => exact follow_whole _ _ (htarget target rfl)
  | content => exact offer_whole hkeyed

/-- Over a registry that `Leads`, the plan for any input is `Whole`. -/
theorem plan_whole (h : e.registry.Leads) (text intent : String) :
    (e.plan text intent).Whole e := by
  cases hactive : e.active with
  | none =>
      rcases plan_idle hactive text intent with ⟨-, heq⟩ | ⟨d, -, heq, -⟩
      · rw [heq]
        exact ⟨nofun, rfl, keyed_of_idle hactive⟩
      · rw [heq]
        have henter :=
          enter_whole (e.activating d) (e.activation d) d.initial none
        have hwhole : ((e.activating d).enter (e.activation d) d.initial
            none).Whole e := ⟨henter.whole, henter.registry, henter.keyed⟩
        exact hwhole.after _
  | some a =>
      cases hends : e.endsBy a text with
      | true =>
          rw [plan_of_endsBy hactive hends]
          exact (exit_whole e a none).after _
      | false =>
          cases hs : e.state? a with
          | none =>
              rw [plan_of_vanished hactive hends hs]
              exact (exit_whole e a none).after _
          | some s =>
              obtain ⟨d, hd, hstate⟩ := Option.bind_eq_some_iff.1 hs
              obtain ⟨key, -, hkey⟩ := Option.bind_eq_some_iff.1 hstate
              have hleads :=
                h a.workflow d hd _ (Catalog.mem_entries_of_get? hkey)
              rw [plan_of_state hactive hends hs]
              exact consider_whole hs hleads intent

end Engine
end Colloquy
