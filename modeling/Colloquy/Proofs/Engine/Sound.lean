/-
Definitions without problems. What the check of a definition finds nothing
wrong with, the engine handles without a mishap: no transition ends in the
air, the active state never vanishes, no target lacks its state, and every
message that is rendered refers to known variables only. A workflow then
ends for two reasons: an exit phrase, or a target that leads out.

The check and the engine look at different things. The check reads states,
targets and templates; the engine decides on a cap, a transition or a
handler, and takes the target and the template that come with it.
`State.decide_mem` is where the two meet: every target that a state can
decide on is one that the check has read, also where the cap is zero,
negative or none.
-/
import Colloquy.Problem
import Colloquy.Proofs.Engine.Course

namespace Colloquy

universe u

-- =========================================================== soundness

/-- Every variable of the template `isKnown`. -/
def Template.Clear (template : String) : Prop :=
  ∀ path ∈ Template.variablePaths template, Template.isKnown path = true

/-- The initial state and the states of all targets are there, and every
template is `Clear`. -/
structure Definition.Sound (d : Definition) : Prop where
  initial : ∃ s, d.states.get? d.initial = some s
  targets : ∀ {key s site t}, d.states.get? key = some s →
    (site, t) ∈ Definition.targetsOf key s → t.isExit = false →
    ∃ key' s', t.state = some key' ∧ d.states.get? key' = some s'
  templates : ∀ {site template}, (site, template) ∈ d.templates →
    Template.Clear template

/-- A definition for which `problems` finds nothing is `Sound`. -/
theorem Definition.sound_of_problems_eq_nil {d : Definition}
    (h : d.problems = []) : d.Sound := by
  unfold Definition.problems at h
  obtain ⟨h, htemplates⟩ := List.append_eq_nil_iff.1 h
  obtain ⟨hinitial, hstates⟩ := List.append_eq_nil_iff.1 h
  refine ⟨?_, ?_, ?_⟩
  · by_cases hsome : (d.state? (some d.initial)).isSome = true
    · exact Option.isSome_iff_exists.1 hsome
    · rw [if_neg hsome] at hinitial
      cases hinitial
  · intro key s site t hs ht hexit
    have hproblems : d.stateProblems key s = [] :=
      List.flatMap_eq_nil_iff.1 hstates (key, s)
        (Catalog.mem_entries_of_get? hs)
    have htarget : (if d.isDangling t
        then some (Problem.undefinedTarget site t.state) else none) = none :=
      List.filterMap_eq_nil_iff.1
        (List.append_eq_nil_iff.1 hproblems).2 (site, t) ht
    have hdangling : ¬ d.isDangling t = true := by
      intro hdangling
      rw [if_pos hdangling] at htarget
      cases htarget
    rw [Definition.isDangling, hexit, Bool.not_false, Bool.true_and,
      Option.isNone_iff_eq_none, Definition.state?] at hdangling
    obtain ⟨s', hs'⟩ := Option.ne_none_iff_exists'.1 hdangling
    obtain ⟨key', hkey', hs'⟩ := Option.bind_eq_some_iff.1 hs'
    exact ⟨key', s', hkey', hs'⟩
  · intro site template hmem path hpath
    have hunknown := List.flatMap_eq_nil_iff.1 htemplates (site, template) hmem
    have hfilter := List.filter_eq_nil_iff.1 (List.map_eq_nil_iff.1 hunknown)
      path hpath
    rw [Bool.not_eq_true', Bool.not_eq_false] at hfilter
    exact hfilter

/-- The target of a decision, if it is not `content`. -/
def State.Decision.target? : State.Decision → Option Target
  | .capped _ t | .transition t => some t
  | .content => none

/-- What `decide` gives as a target is one of `targetsOf`, which the check
reads. -/
theorem State.decide_mem {s : State} {turn : Int} {intent : String}
    {t : Target} (key : String) (h : (s.decide turn intent).target? = some t) :
    ∃ site, (site, t) ∈ Definition.targetsOf key s := by
  unfold State.decide at h
  cases hcap : s.turnCap.filter (turn > ·) with
  | some cap =>
      rw [hcap] at h
      cases h
      have hturn : s.hasTurnCap = true :=
        Option.isSome_iff_exists.2 ⟨cap, (Option.filter_eq_some_iff.1 hcap).1⟩
      refine ⟨.maxTurnsTarget key, List.mem_append_right _ ?_⟩
      rw [if_pos hturn]
      exact List.mem_singleton.2 rfl
  | none =>
      rw [hcap] at h
      obtain ⟨intent', hfound⟩ : ∃ i, s.transitions.get? i = some t := by
        unfold State.targetFor at h
        cases hexact : s.transitions.get? intent with
        | some t' =>
            rw [hexact] at h
            cases h
            exact ⟨intent, hexact⟩
        | none =>
            cases hwild : s.transitions.get? State.wildcard with
            | some t' =>
                rw [hexact, hwild] at h
                cases h
                exact ⟨State.wildcard, hwild⟩
            | none =>
                rw [hexact, hwild] at h
                cases h
      exact ⟨.transition key intent', List.mem_append_left _ (List.mem_map.2
        ⟨_, Catalog.mem_entries_of_get? hfound, rfl⟩)⟩

namespace Definition

variable {d : Definition} {key : String} {s : State}

theorem Sound.exitMessage_clear (hd : d.Sound) :
    Template.Clear d.exitMessage :=
  hd.templates (List.mem_cons_self ..)

/-- The templates of a state are among the `templates` of its definition. -/
theorem mem_templates (hs : d.states.get? key = some s)
    {entry : Problem.Site × String} (h : entry ∈ templatesOf key s) :
    entry ∈ d.templates :=
  List.mem_cons_of_mem _ (List.mem_flatMap.2
    ⟨(key, s), Catalog.mem_entries_of_get? hs, h⟩)

theorem Sound.onEnter_clear (hd : d.Sound)
    (hs : d.states.get? key = some s) : Template.Clear s.onEnter :=
  hd.templates (mem_templates hs (List.mem_cons_self ..))

theorem Sound.message_clear (hd : d.Sound)
    (hs : d.states.get? key = some s) {site : Problem.Site} {t : Target}
    (ht : (site, t) ∈ targetsOf key s) {message : String}
    (hmessage : t.message = some message) : Template.Clear message := by
  have hmem : (site, message) ∈ templatesOf key s := by
    refine List.mem_cons_of_mem _ (List.mem_filterMap.2 ⟨(site, t), ht, ?_⟩)
    show t.message.map (site, ·) = some (site, message)
    rw [hmessage]
    rfl
  exact hd.templates (mem_templates hs hmem)

end Definition

-- ========================================================= sound plans

namespace Engine

variable {H : Type u} {e e' : Engine H} {a : Activation} {d : Definition}

/-- If `d` is running, its active state is one that it has. -/
def Placed (e : Engine H) (d : Definition) : Prop :=
  ∀ a, e.active = some a → a.workflow = d.id →
    ∃ s, d.state? a.state = some s

/-- Whether an engine is `Placed` depends on its `place` only. -/
theorem Placed.congr (h : e.Placed d) (hplace : e'.place = e.place) :
    e'.Placed d := by
  intro b hb hworkflow
  have hb' : e.place = some (b.workflow, b.state) :=
    hplace.symm.trans (congrArg _ hb)
  obtain ⟨a, ha, hab⟩ := Option.map_eq_some_iff.1 hb'
  obtain ⟨hw, hstate⟩ := Prod.mk.inj hab
  obtain ⟨s, hs⟩ := h a ha (hw.trans hworkflow)
  exact ⟨s, by rw [← hstate, hs]⟩

/-- An idle engine is `Placed`. -/
theorem placed_of_idle (h : e.active = none) : e.Placed d := by
  intro a ha
  rw [h] at ha
  cases ha

/-- The plan notes down neither warning, does not fail, has a `Clear` template
if any, keeps the engine `Placed`, and leaves the workflow only for a `reason`.
-/
structure Plan.Sound (d : Definition) (reason : Prop) (p : Plan H) :
    Prop where
  quiet : ∀ entry ∈ p.entries,
    entry.message ≠ "Transition to undefined state; exiting"
      ∧ entry.message ≠ "Active state vanished from its definition; exiting"
  whole : ∀ fault, p.course ≠ .failed fault
  clear : ∀ template, p.course.template? = some template →
    Template.Clear template
  placed : p.engine.Placed d
  leaves : ∀ b template, p.course = .leave b template → reason

theorem Plan.Sound.after {reason : Prop} {p : Plan H}
    (h : p.Sound d reason) {level : Log.Level} {message : String}
    {fields : List (String × Value)}
    (hundefined : message ≠ "Transition to undefined state; exiting")
    (hvanished : message
      ≠ "Active state vanished from its definition; exiting") :
    (p.after (entry level message fields)).Sound d reason := by
  refine ⟨?_, h.whole, h.clear, h.placed, h.leaves⟩
  intro entry' hentry
  rcases List.mem_cons.1 hentry with rfl | hentry
  · exact ⟨hundefined, hvanished⟩
  · exact h.quiet entry' hentry

theorem Plan.Sound.imp {reason reason' : Prop} {p : Plan H}
    (h : p.Sound d reason) (himp : reason → reason') :
    p.Sound d reason' :=
  ⟨h.quiet, h.whole, h.clear, h.placed,
    fun b template hb => himp (h.leaves b template hb)⟩

section Transitions

variable (hd : d.Sound) (hdefinition : e.definition? a = some d)
include hd hdefinition

theorem exit_sound {reason : Prop} (hplaced : e.Placed d)
    (hreason : reason) {message : Option String}
    (hmessage : ∀ m, message = some m → Template.Clear m) :
    (e.exit a message).Sound d reason := by
  refine ⟨nofun, nofun, ?_, hplaced, fun _ _ _ => hreason⟩
  intro template htemplate
  have htemplate : message.getD d.exitMessage = template := by
    unfold exit at htemplate
    rw [hdefinition] at htemplate
    exact Option.some.inj htemplate
  rw [← htemplate]
  cases message with
  | none => exact hd.exitMessage_clear
  | some m => exact hmessage m rfl

theorem enter_sound {reason : Prop} {key : String} {s : State}
    (hs : d.states.get? key = some s) {message : Option String}
    (hmessage : ∀ m, message = some m → Template.Clear m) :
    (e.enter a key message).Sound d reason := by
  obtain ⟨b, -, hstate, heq⟩ := enter_eq hdefinition hs message
  rw [heq]
  refine ⟨nofun, nofun, ?_, ?_, nofun⟩
  · intro template htemplate
    rw [← Option.some.inj htemplate]
    cases message with
    | none => exact hd.onEnter_clear hs
    | some m => exact hmessage m rfl
  · intro c hc _
    refine ⟨s, ?_⟩
    rw [← Option.some.inj hc, hstate]
    exact hs

/-- Following one of the definition's targets is `Sound`, and leaves only if
the target `isExit`. -/
theorem follow_sound (hplaced : e.Placed d) {key : String} {s : State}
    (hs : d.states.get? key = some s) {site : Problem.Site} {t : Target}
    (ht : (site, t) ∈ Definition.targetsOf key s) :
    (e.follow a t).Sound d (t.isExit = true) := by
  have hmessage : ∀ m, t.message = some m → Template.Clear m :=
    fun m hm => hd.message_clear hs ht hm
  unfold follow
  by_cases hexit : t.isExit = true
  · rw [if_pos hexit]
    exact exit_sound hd hdefinition hplaced hexit hmessage
  · rw [if_neg hexit]
    obtain ⟨key', s', hkey', hs'⟩ :=
      hd.targets hs ht (Bool.eq_false_iff.2 hexit)
    rw [hkey']
    exact enter_sound hd hdefinition hs' hmessage

end Transitions

theorem offer_sound {reason : Prop} (hplaced : e.Placed d) (s : State) :
    (e.offer a s).Sound d reason := by
  unfold offer
  cases s.handlerName? with
  | none => exact ⟨nofun, nofun, nofun, hplaced, nofun⟩
  | some name =>
      dsimp only
      cases e.handlers.get? name with
      | some handler => exact ⟨nofun, nofun, nofun, hplaced, nofun⟩
      | none =>
          refine ⟨?_, nofun, nofun, hplaced, nofun⟩
          intro entry hentry
          rw [List.mem_singleton.1 hentry]
          show "State names an unregistered handler; input not consumed" ≠ _
            ∧ "State names an unregistered handler; input not consumed" ≠ _
          decide

/-- At a state of a `Sound` definition, `consider` is sound, and leaves only by
a target that `isExit`. -/
theorem consider_sound (hd : d.Sound)
    (hdefinition : e.definition? a = some d) {key : String} {s : State}
    (hkey : a.state = some key) (hs : d.states.get? key = some s)
    (intent : String) :
    (e.consider a s intent).Sound d
      (∃ t, (s.decide (a.context.stateTurnCount + 1) intent).target? = some t
        ∧ t.isExit = true) := by
  have hplaced : (e.running a.counted).Placed d := by
    intro b hb _
    refine ⟨s, ?_⟩
    rw [← Option.some.inj hb]
    show a.state.bind d.states.get? = some s
    rw [hkey]
    exact hs
  have hfollow : ∀ t,
      (s.decide (a.context.stateTurnCount + 1) intent).target? = some t →
      ((e.running a.counted).follow a.counted t).Sound d
        (t.isExit = true) := by
    intro t ht
    obtain ⟨site, hsite⟩ := State.decide_mem key ht
    have hcounted : (e.running a.counted).definition? a.counted = some d :=
      hdefinition
    exact follow_sound hd hcounted hplaced hs hsite
  have hturn : a.counted.context.stateTurnCount
      = a.context.stateTurnCount + 1 := rfl
  rw [consider_eq, hturn]
  cases hdecide : s.decide (a.context.stateTurnCount + 1) intent with
  | capped cap target =>
      rw [hdecide] at hfollow
      refine ((hfollow target rfl).after ?_ ?_).imp fun h => ⟨target, rfl, h⟩
      · decide
      · decide
  | transition target =>
      rw [hdecide] at hfollow
      exact (hfollow target rfl).imp fun h => ⟨target, rfl, h⟩
  | content => exact offer_sound hplaced s

-- ============================================================= inputs

/-- The input is for `d`: `d` is running, or the engine is idle and the intent
triggers `d`. -/
def IsFor (e : Engine H) (d : Definition) (intent : String) : Prop :=
  e.workflow? = some d.id
    ∨ e.active = none ∧ e.registry.findByTrigger intent = some d

/-- Why an input ends `d`: an exit phrase, or a target of the active state that
`isExit`. -/
def Ends (e : Engine H) (d : Definition) (text intent : String) : Prop :=
  ∃ a, e.active = some a ∧ (d.matchesExitPhrase text = true
    ∨ ∃ s t, d.state? a.state = some s
      ∧ (s.decide (a.context.stateTurnCount + 1) intent).target? = some t
      ∧ t.isExit = true)

/-- An input that `IsFor` a definition continues an activation of it. -/
theorem IsFor.continues {intent : String} (h : e.IsFor d intent)
    (text : String) :
    ∃ e' a, (e.plan text intent).Continues e' a ∧ a.workflow = d.id := by
  rcases h with hrunning | ⟨hidle, htrigger⟩
  · obtain ⟨a, hactive, hworkflow⟩ := Option.map_eq_some_iff.1 hrunning
    exact ⟨e, a, plan_continues hactive text intent, hworkflow⟩
  · rcases plan_idle hidle text intent with ⟨hnone, -⟩ | ⟨d', hd', -, hgoes⟩
    · rw [hnone] at htrigger
      cases htrigger
    · rw [htrigger] at hd'
      cases hd'
      exact ⟨e.activating d, e.activation d, hgoes, rfl⟩

section Inputs

variable (hd : d.Sound) (hregistered : e.registry.get? d.id = some d)
include hd hregistered

/-- While a `Sound` definition is running, the plan for any input is sound. -/
theorem plan_sound (hplaced : e.Placed d) (hactive : e.active = some a)
    (hworkflow : a.workflow = d.id) (text intent : String) :
    (e.plan text intent).Sound d (d.matchesExitPhrase text = true
      ∨ ∃ s t, d.state? a.state = some s
        ∧ (s.decide (a.context.stateTurnCount + 1) intent).target? = some t
        ∧ t.isExit = true) := by
  have hdefinition : e.definition? a = some d := by
    rw [definition?, hworkflow]
    exact hregistered
  obtain ⟨s, hstate⟩ := hplaced a hactive hworkflow
  obtain ⟨key, hkey, hs⟩ := Option.bind_eq_some_iff.1 hstate
  have hnone : ∀ m, (none : Option String) = some m → Template.Clear m := nofun
  have hends : e.endsBy a text = d.matchesExitPhrase text := by
    rw [endsBy, hdefinition]
    rfl
  cases hphrase : d.matchesExitPhrase text with
  | true =>
      rw [plan_of_endsBy hactive (hends.trans hphrase)]
      refine (exit_sound hd hdefinition hplaced (.inl rfl) hnone).after ?_ ?_
      · decide
      · decide
  | false =>
      have hfound : e.state? a = some s := by
        rw [state?, hdefinition]
        exact hstate
      rw [plan_of_state hactive (hends.trans hphrase) hfound]
      exact (consider_sound hd hdefinition hkey hs intent).imp
        fun ⟨t, ht, hexit⟩ => .inr ⟨s, t, hstate, ht, hexit⟩

/-- If the intent triggers a `Sound` definition, the plan is sound and does not
leave it. -/
theorem activate_sound (hidle : e.active = none) {intent : String}
    (htrigger : e.registry.findByTrigger intent = some d) (text : String) :
    (e.plan text intent).Sound d False := by
  obtain ⟨s, hs⟩ := hd.initial
  have hnone : ∀ m, (none : Option String) = some m → Template.Clear m := nofun
  rcases plan_idle hidle text intent with ⟨hignored, -⟩ | ⟨d', hd', heq, -⟩
  · rw [hignored] at htrigger
    cases htrigger
  · rw [htrigger] at hd'
    cases hd'
    have hdefinition :
        (e.activating d).definition? (e.activation d) = some d := hregistered
    rw [heq]
    refine (enter_sound hd hdefinition hs hnone).after ?_ ?_
    · decide
    · decide

/-- If the input `IsFor` a `Sound` definition, its plan is sound, with `Ends`
as the reason to leave. -/
theorem plan_sound_of_isFor (hplaced : e.Placed d) {intent : String}
    (hfor : e.IsFor d intent) (text : String) :
    (e.plan text intent).Sound d (e.Ends d text intent) := by
  rcases hfor with hrunning | ⟨hidle, htrigger⟩
  · obtain ⟨a, hactive, hworkflow⟩ := Option.map_eq_some_iff.1 hrunning
    exact (plan_sound hd hregistered hplaced hactive hworkflow text
      intent).imp fun h => ⟨a, hactive, h⟩
  · exact (activate_sound hd hregistered hidle htrigger text).imp False.elim

/-- For any input, the plan keeps a `Sound` definition `Placed`. -/
theorem plan_placed (hplaced : e.Placed d) (text intent : String) :
    (e.plan text intent).engine.Placed d := by
  cases hactive : e.active with
  | none =>
      rcases plan_idle hactive text intent with ⟨-, heq⟩ | ⟨d', hd', -, hgoes⟩
      · rw [heq]
        exact hplaced
      · by_cases hid : d'.id = d.id
        · have hfound := Registry.get?_of_findByTrigger hd'
          rw [hid, hregistered] at hfound
          cases hfound
          exact (activate_sound hd hregistered hactive hd' text).placed
        · obtain ⟨b, hab, heq⟩ := hgoes.engine
          rw [heq]
          intro c hc hworkflow
          cases hc
          exact absurd (hab.workflow.symm.trans hworkflow) hid
  | some a =>
      by_cases hworkflow : a.workflow = d.id
      · exact (plan_sound hd hregistered hplaced hactive hworkflow text
          intent).placed
      · obtain ⟨b, hab, heq⟩ := (plan_continues hactive text intent).engine
        rw [heq]
        intro c hc hid
        cases hc
        exact absurd (hab.workflow.symm.trans hid) hworkflow

end Inputs

end Engine
end Colloquy
