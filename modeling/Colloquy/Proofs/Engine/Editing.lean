/-
Editing a state. A definition may have a copy that differs from it in one
state, because the state was put in where there was none, or in the place of
another one. The copy differs in what stands under one key, and an engine
looks up two keys at most: that of the state it is in, and that of a state it
is about to enter. So over a registry with the copy an input leads where it
would have led, unless it is about to enter that very state (`plan_edited`).

It need not get there: without the edit the state may be missing, and then the
workflow ends instead. That is why `HeadsFor` goes by the target that is
followed, and not by the state that is arrived at.
-/
import Colloquy.Proofs.Engine.Leaving
import Colloquy.Proofs.Engine.Upon
import Colloquy.Proofs.Registry

namespace Colloquy

universe u

variable {w key : String} {r r' : Registry}

-- ============================================================ definitions

namespace Definition

/-- The names of `withState`: a state that is put in keeps the place of the one
under its key, or comes last. -/
theorem names_withState (d : Definition) (s : State) :
    (d.withState s).states.names
      = if s.id ∈ d.states.names then d.states.names
        else d.states.names ++ [s.id] := d.states.names_put s.id s

/-- The lookup in `withState`: the state stands under its id, and every other
key is as before. -/
theorem get?_withState (d : Definition) (s : State) (key : String) :
    (d.withState s).states.get? key
      = if key = s.id then some s else d.states.get? key :=
  d.states.get?_put s.id key s

/-- Two definitions that are equal but for their states, which differ at most
under `key`. -/
inductive AgreesOff (key : String) (d : Definition) : Definition → Prop
  | mk {states : Catalog State}
      (hoff : ∀ other, other ≠ key →
        states.get? other = d.states.get? other) :
      AgreesOff key d { d with states }

theorem AgreesOff.refl (d : Definition) : d.AgreesOff key d :=
  .mk fun _ _ => rfl

theorem AgreesOff.symm {d d' : Definition} (h : d.AgreesOff key d') :
    d'.AgreesOff key d := by
  cases h with
  | mk hoff =>
      exact .mk (d := { d with states := _ }) fun other hother =>
        (hoff other hother).symm

theorem agreesOff_withState (d : Definition) (s : State) :
    d.AgreesOff s.id (d.withState s) :=
  .mk fun other hother => by
    rw [d.states.get?_put, if_neg hother]

end Definition

-- ============================================================= registries

namespace Registry

/-- Two registries with the same ids in the same order, and the same definition
under each; only the definitions under `w` may differ, and only in the state
under `key`. -/
structure AgreesOff (w key : String) (r r' : Registry) : Prop where
  ids : r'.ids = r.ids
  others : ∀ id, id ≠ w → r'.get? id = r.get? id
  here : Option.Rel (Definition.AgreesOff key) (r.get? w) (r'.get? w)

/-- What `get?` finds in both registries agrees off `key`. -/
theorem AgreesOff.found (h : r.AgreesOff w key r') (id : String) :
    Option.Rel (Definition.AgreesOff key) (r.get? id) (r'.get? id) := by
  by_cases hid : id = w
  · rw [hid]
    exact h.here
  · rw [h.others id hid]
    cases r.get? id with
    | none => exact .none
    | some d => exact .some (.refl d)

theorem AgreesOff.symm (h : r.AgreesOff w key r') : r'.AgreesOff w key r where
  ids := h.ids.symm
  others id hid := (h.others id hid).symm
  here := by
    have hhere := h.here
    generalize r.get? w = d?, r'.get? w = d'? at hhere ⊢
    cases hhere with
    | none => exact .none
    | some hd => exact .some hd.symm

theorem AgreesOff.refl (r : Registry) : r.AgreesOff w key r where
  ids := rfl
  others _ _ := rfl
  here := by
    cases r.get? w with
    | none => exact .none
    | some d => exact .some (.refl d)

/-- A part `f` of a definition that does not depend on its states is the same
in both registries. -/
theorem AgreesOff.part (h : r.AgreesOff w key r') (id : String) {γ : Type}
    (f : Definition → γ) (hf : ∀ d states, f { d with states } = f d) :
    (r'.get? id).map f = (r.get? id).map f := by
  have hfound := h.found id
  generalize r.get? id = d?, r'.get? id = d'? at hfound ⊢
  cases hfound with
  | none => rfl
  | some hd =>
      cases hd with
      | mk => exact congrArg some (hf _ _)

theorem AgreesOff.any (h : r.AgreesOff w key r') (id : String)
    (p : Definition → Bool) (hp : ∀ d states, p { d with states } = p d) :
    (r'.get? id).any p = (r.get? id).any p := by
  have hpart := congrArg (Option.any fun b => b) (h.part id p hp)
  rw [Option.any_map, Option.any_map] at hpart
  exact hpart

/-- A state that is looked up is the same, unless it is the one under `key` in
`w`. -/
theorem AgreesOff.state (h : r.AgreesOff w key r') {id other : String}
    (hoff : id = w → other ≠ key) :
    (r'.get? id).bind (·.states.get? other)
      = (r.get? id).bind (·.states.get? other) := by
  by_cases hid : id = w
  · have hfound := h.found id
    generalize r.get? id = d?, r'.get? id = d'? at hfound ⊢
    cases hfound with
    | none => rfl
    | some hd =>
        cases hd with
        | mk hsame => exact hsame other (hoff hid)
  · rw [h.others id hid]

/-- What `findByTrigger` finds in both registries agrees off `key`. -/
theorem AgreesOff.findByTrigger (h : r.AgreesOff w key r')
    (intent : String) :
    Option.Rel (Definition.AgreesOff key) (r.findByTrigger intent)
      (r'.findByTrigger intent) := by
  have hany := fun id => h.any id (·.trigger = intent) fun _ _ => rfl
  have hfirst : (r'.ids.find? fun id => (r'.get? id).any (·.trigger = intent))
      = r.ids.find? fun id => (r.get? id).any (·.trigger = intent) := by
    rw [h.ids]
    exact congrArg (List.find? · r.ids) (funext hany)
  unfold Registry.findByTrigger
  rw [Catalog.find?_values, Catalog.find?_values]
  show Option.Rel _
    ((r.ids.find? fun id => (r.get? id).any (·.trigger = intent)).bind r.get?)
    ((r'.ids.find? fun id => (r'.get? id).any (·.trigger = intent)).bind
      r'.get?)
  rw [hfirst]
  cases r.ids.find? fun id => (r.get? id).any (·.trigger = intent) with
  | none => exact .none
  | some id => exact h.found id

/-- An intent triggers a workflow with the same id in both registries. -/
theorem AgreesOff.triggers (h : r.AgreesOff w key r') (intent : String) :
    (r'.findByTrigger intent).map (·.id)
      = (r.findByTrigger intent).map (·.id) := by
  have hfound := h.findByTrigger intent
  generalize r.findByTrigger intent = d?, r'.findByTrigger intent = d'?
    at hfound ⊢
  cases hfound with
  | none => rfl
  | some hd =>
      cases hd with
      | mk => rfl

/-- Registering `d.withState s` instead of `d` agrees off the id of `s`. -/
theorem agreesOff_register (r : Registry) (d : Definition) (s : State) :
    (r.register d).AgreesOff d.id s.id (r.register (d.withState s)) where
  ids := by
    rw [ids_register, ids_register]
    rfl
  others id hid := by
    rw [get?_register, get?_register, if_neg hid]
    exact if_neg hid
  here := by
    rw [get?_register, get?_register, if_pos rfl]
    show Option.Rel _ _ (if d.id = d.id then _ else _)
    rw [if_pos rfl]
    exact .some (d.agreesOff_withState s)

end Registry

-- ================================================================ engines

namespace Engine

variable {H : Type u} {e : Engine H} {a : Activation}
  {text intent : String}

/-- An input heads for the state under `key` of the workflow `w`: it activates
`w`, whose initial state that is; or the state's `decide` gives a target that
leads there. -/
inductive HeadsFor (e : Engine H) (w key text intent : String) : Prop
  | activating {d : Definition} (hidle : e.active = none)
      (htriggered : e.registry.findByTrigger intent = some d)
      (hworkflow : d.id = w) (hinitial : d.initial = key) :
      HeadsFor e w key text intent
  | following {a : Activation} {s : State} {t : Target}
      (hactive : e.active = some a) (hworkflow : a.workflow = w)
      (hends : e.endsBy a text = false) (hstate : e.state? a = some s)
      (hdecides : (s.decide (a.context.stateTurnCount + 1) intent).target?
        = some t)
      (hleads : t.LeadsTo key) : HeadsFor e w key text intent

-- What follows is about an engine and the same engine over a registry that
-- agrees with its own but for one state, and about inputs that come near that
-- state neither where they begin nor where they head for.
section AgreesOff

variable (h : e.registry.AgreesOff w key r')
include h

theorem exit_edited (message : Option String) :
    (e.upon r').exit a message = (e.exit a message).upon r' := by
  have hpart := h.part a.workflow (·.exitMessage) fun _ _ => rfl
  unfold exit
  rw [show ((e.upon r').definition? a).map (·.exitMessage)
    = (e.definition? a).map (·.exitMessage) from hpart]
  rfl

theorem endsBy_edited (a : Activation) (text : String) :
    (e.upon r').endsBy a text = e.endsBy a text :=
  h.any a.workflow (·.matchesExitPhrase text) fun _ _ => rfl

theorem state?_edited (hoff : a.workflow = w → a.state ≠ some key) :
    (e.upon r').state? a = e.state? a := by
  have hstate? : ∀ e' : Engine H, e'.state? a
      = a.state.bind fun other =>
        (e'.registry.get? a.workflow).bind (·.states.get? other) := by
    intro e'
    unfold state? definition? Definition.state?
    cases e'.registry.get? a.workflow <;> cases a.state <;> rfl
  rw [hstate?, hstate?]
  cases hkey : a.state with
  | none => rfl
  | some other =>
      refine h.state fun hworkflow hother => ?_
      exact hoff hworkflow (by rw [hkey, hother])

theorem enter_edited {other : String} (hoff : a.workflow = w → other ≠ key)
    (message : Option String) :
    (e.upon r').enter a other message
      = (e.enter a other message).upon r' := by
  have hstate := h.state hoff
  unfold enter
  rw [exit_edited h]
  rw [show (e.upon r').definition? a = r'.get? a.workflow from rfl,
    show e.definition? a = e.registry.get? a.workflow from rfl]
  have hfound := h.found a.workflow
  generalize e.registry.get? a.workflow = d?, r'.get? a.workflow = d'?
    at hfound hstate ⊢
  cases hfound with
  | none => rfl
  | @some d d' hd =>
      rw [Option.bind_some, Option.bind_some] at hstate
      dsimp only [Option.bind_some]
      rw [hstate]
      cases hd with
      | mk =>
          cases d.states.get? other with
          | none => rfl
          | some s => rfl

theorem follow_edited {t : Target}
    (hoff : a.workflow = w → ¬ t.LeadsTo key) :
    (e.upon r').follow a t = (e.follow a t).upon r' := by
  unfold follow
  rw [exit_edited h]
  cases hexit : t.isExit with
  | true => rw [if_pos rfl, if_pos rfl]
  | false =>
      rw [if_neg Bool.false_ne_true, if_neg Bool.false_ne_true]
      cases hstate : t.state with
      | none => rfl
      | some other =>
          refine enter_edited h (fun hworkflow hother => ?_) t.message
          exact hoff hworkflow ⟨hexit, by rw [hstate, hother]⟩

theorem consider_edited {s : State}
    (hoff : ∀ t, (s.decide (a.context.stateTurnCount + 1) intent).target?
      = some t → a.workflow = w → ¬ t.LeadsTo key) :
    (e.upon r').consider a s intent = (e.consider a s intent).upon r' := by
  have hcounted : (e.running a.counted).registry.AgreesOff w key r' := h
  have hrunning : (e.upon r').running a.counted
      = (e.running a.counted).upon r' := rfl
  have hturn : a.counted.context.stateTurnCount
      = a.context.stateTurnCount + 1 := rfl
  rw [consider_eq, consider_eq, hrunning, hturn]
  have hfollow : ∀ t, (s.decide (a.context.stateTurnCount + 1) intent).target?
      = some t → ((e.running a.counted).upon r').follow a.counted t
        = ((e.running a.counted).follow a.counted t).upon r' :=
    fun t hdecides => follow_edited hcounted (hoff t hdecides)
  cases hdecide : s.decide (a.context.stateTurnCount + 1) intent with
  | capped cap target =>
      rw [hdecide] at hfollow
      dsimp only
      rw [hfollow target rfl, Plan.upon_after]
  | transition target =>
      rw [hdecide] at hfollow
      exact hfollow target rfl
  | content => exact offer_upon _ _ s r'

theorem activate_edited
    (hoff : ∀ d, e.registry.findByTrigger intent = some d → d.id = w →
      d.initial ≠ key) :
    (e.upon r').activate intent = (e.activate intent).upon r' := by
  have hfound := h.findByTrigger intent
  unfold activate
  rw [show (e.upon r').registry = r' from rfl]
  cases htriggered : e.registry.findByTrigger intent with
  | none =>
      rw [htriggered] at hfound
      generalize r'.findByTrigger intent = d'? at hfound ⊢
      cases hfound with
      | none => rfl
  | some d =>
      rw [htriggered] at hfound
      generalize r'.findByTrigger intent = d'? at hfound ⊢
      cases hfound with
      | some hd =>
          cases hd with
          | mk =>
              have hactivating : (e.activating d).registry.AgreesOff w key
                r' :=
                h
              dsimp only
              rw [← Plan.upon_after]
              exact congrArg _ (enter_edited hactivating
                (hoff d htriggered) none)

/-- Off the state, `plan` commutes with `upon`: an input that does not head for
it leads over the other registry where it leads over the engine's own. -/
theorem plan_edited (hoff : e.place ≠ some (w, some key))
    (hmiss : ¬ e.HeadsFor w key text intent) :
    (e.upon r').plan text intent = (e.plan text intent).upon r' := by
  cases hactive : e.active with
  | none =>
      have hidle : (e.upon r').active = none := hactive
      unfold plan
      rw [hactive, hidle]
      exact activate_edited h fun d htriggered hworkflow hinitial =>
        hmiss (.activating hactive htriggered hworkflow hinitial)
  | some a =>
      have hactive' : (e.upon r').active = some a := hactive
      have hends' := endsBy_edited h a text
      have hstate' : (e.upon r').state? a = e.state? a := by
        refine state?_edited h fun hworkflow hkey => hoff ?_
        rw [place_of_active hactive, hworkflow, hkey]
      cases hends : e.endsBy a text with
      | true =>
          rw [plan_of_endsBy hactive hends,
            plan_of_endsBy hactive' (hends'.trans hends), exit_edited h,
            Plan.upon_after]
      | false =>
          have hends' := hends'.trans hends
          cases hstate : e.state? a with
          | none =>
              rw [plan_of_vanished hactive hends hstate,
                plan_of_vanished hactive' hends' (hstate'.trans hstate),
                exit_edited h, Plan.upon_after]
          | some s =>
              rw [plan_of_state hactive hends hstate,
                plan_of_state hactive' hends' (hstate'.trans hstate)]
              exact consider_edited h fun t hdecides hworkflow hleads =>
                hmiss (.following hactive hworkflow hends hstate hdecides
                  hleads)

/-- An input that heads for the state over one registry does so over the other.
-/
theorem HeadsFor.upon (hoff : e.place ≠ some (w, some key))
    (hheads : e.HeadsFor w key text intent) :
    (e.upon r').HeadsFor w key text intent := by
  cases hheads with
  | @activating d hidle htriggered hworkflow hinitial =>
      have hfound := h.findByTrigger intent
      rw [htriggered] at hfound
      cases htriggered' : r'.findByTrigger intent with
      | none =>
          rw [htriggered'] at hfound
          cases hfound
      | some d' =>
          rw [htriggered'] at hfound
          cases hfound with
          | some hd =>
              cases hd with
              | mk => exact .activating hidle htriggered' hworkflow hinitial
  | following hactive hworkflow hends hstate hdecides hleads =>
      refine .following hactive hworkflow ((endsBy_edited h _ _).trans hends)
        ((state?_edited h fun hworkflow hkey => hoff ?_).trans hstate)
        hdecides hleads
      rw [place_of_active hactive, hworkflow, hkey]

end AgreesOff

/-- Whether an input `HeadsFor` the state is the same over both registries. -/
theorem headsFor_upon_iff (h : e.registry.AgreesOff w key r')
    (hoff : e.place ≠ some (w, some key)) :
    (e.upon r').HeadsFor w key text intent
      ↔ e.HeadsFor w key text intent := by
  have hback : (e.upon r').registry.AgreesOff w key e.registry := h.symm
  exact ⟨HeadsFor.upon hback hoff, HeadsFor.upon h hoff⟩

/-- A plan of `offer` leaves the engine as it is. -/
theorem offer_engine (e : Engine H) (a : Activation) (s : State) :
    (e.offer a s).engine = e := by
  unfold offer
  cases s.handlerName? with
  | none => rfl
  | some name =>
      dsimp only
      cases e.handlers.get? name <;> rfl

-- An engine that is not at a state gets there only by an input that heads for
-- it.
section Place

variable (hoff : e.place ≠ some (w, some key))
include hoff

theorem enter_off {other : String}
    (hother : a.workflow = w → other ≠ key) (message : Option String) :
    (e.enter a other message).engine.place ≠ some (w, some key) := by
  rcases enter_cases e a other message
    with ⟨warning, heq⟩ | ⟨d, b, template, -, hab, hstate, heq⟩
  · rw [heq]
    exact hoff
  · rw [heq]
    show some (b.workflow, b.state) ≠ _
    rw [hab.workflow, hstate]
    intro hplace
    cases hplace
    exact hother rfl rfl

theorem follow_off {t : Target}
    (hmiss : a.workflow = w → ¬ t.LeadsTo key) :
    (e.follow a t).engine.place ≠ some (w, some key) := by
  unfold follow
  cases hexit : t.isExit with
  | true =>
      rw [if_pos rfl]
      exact hoff
  | false =>
      rw [if_neg Bool.false_ne_true]
      cases hstate : t.state with
      | none => exact hoff
      | some other =>
          refine enter_off hoff (fun hworkflow hother => ?_) t.message
          exact hmiss hworkflow ⟨hexit, by rw [hstate, hother]⟩

theorem consider_off {s : State} (hactive : e.active = some a)
    (hmiss : ∀ t, (s.decide (a.context.stateTurnCount + 1) intent).target?
      = some t → a.workflow = w → ¬ t.LeadsTo key) :
    (e.consider a s intent).engine.place ≠ some (w, some key) := by
  have hplace : (e.running a.counted).place ≠ some (w, some key) := by
    rw [place_of_active hactive] at hoff
    exact hoff
  have hturn : a.counted.context.stateTurnCount
      = a.context.stateTurnCount + 1 := rfl
  have hfollow : ∀ t, (s.decide (a.context.stateTurnCount + 1) intent).target?
      = some t →
        ((e.running a.counted).follow a.counted t).engine.place
          ≠ some (w, some key) :=
    fun t hdecides => follow_off hplace (hmiss t hdecides)
  rw [consider_eq, hturn]
  cases hdecide : s.decide (a.context.stateTurnCount + 1) intent with
  | capped cap target =>
      rw [hdecide] at hfollow
      exact hfollow target rfl
  | transition target =>
      rw [hdecide] at hfollow
      exact hfollow target rfl
  | content =>
      show ((e.running a.counted).offer a.counted s).engine.place ≠ _
      rw [offer_engine]
      exact hplace

theorem plan_off (hmiss : ¬ e.HeadsFor w key text intent) :
    (e.plan text intent).engine.place ≠ some (w, some key) := by
  cases hactive : e.active with
  | none =>
      rcases plan_idle hactive text intent with ⟨-, heq⟩ | ⟨d, hd, heq, -⟩
      · rw [heq]
        exact hoff
      · rw [heq]
        have hstart : (e.activating d).place ≠ some (w, some key) := by
          intro hplace
          cases hplace
        exact enter_off hstart (fun hworkflow hinitial =>
          hmiss (.activating hactive hd hworkflow hinitial)) none
  | some a =>
      cases hends : e.endsBy a text with
      | true =>
          rw [plan_of_endsBy hactive hends]
          exact hoff
      | false =>
          cases hstate : e.state? a with
          | none =>
              rw [plan_of_vanished hactive hends hstate]
              exact hoff
          | some s =>
              rw [plan_of_state hactive hends hstate]
              exact consider_off hoff hactive
                fun t hdecides hworkflow hleads =>
                hmiss (.following hactive hworkflow hends hstate hdecides
                  hleads)

end Place

end Engine

end Colloquy
