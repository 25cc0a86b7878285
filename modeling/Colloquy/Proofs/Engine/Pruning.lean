/-
Handlers that nobody registered. To prune a state is to take its handler's
name away unless the name is kept; a definition, a registry and an engine
are pruned state by state. As long as the names of all handlers in the
table are kept, an input leads to the same in an engine and in the pruned
one, but for what is noted down (`plan_pruned`): a state whose handler is
not in the table takes nothing, like a state without a handler.

# Who asks the table

A plan asks the table for the handler. Whether the active state takes every
input as content does not: that is read off the name alone
(`isCapturing`). So two questions are told apart here. At an engine that
`isServed` every input is content and there is a handler for it; that
much is left by pruning (`isServed_pruned`). At one that `isUnserved`
every input is content for a handler that the table does not have; the
pruned engine does not capture there.

# Content has no intent

Where the active state takes every input as content, an input leads to the
same whatever its intent (`plan_of_isCapturing`): no transition is there to
ask for it.
-/
import Colloquy.Problem
import Colloquy.Proofs.Catalog
import Colloquy.Proofs.Engine.Course

namespace Colloquy

universe u

-- ============================================================== pruning

/-- The state without its handler's name, unless `keep` holds of it. -/
def State.pruned (keep : String → Bool) (s : State) : State :=
  { s with handler := s.handler.filter keep }

/-- The definition with every state pruned. -/
def Definition.pruned (keep : String → Bool) (d : Definition) : Definition :=
  { d with states := d.states.map fun _ s => s.pruned keep }

variable {keep : String → Bool}

theorem State.pruned_all (s : State) : s.pruned (fun _ => true) = s := by
  have hfilter : s.handler.filter (fun _ => true) = s.handler := by
    cases s.handler <;> rfl
  unfold State.pruned
  rw [hfilter]

theorem Definition.pruned_all (d : Definition) :
    d.pruned (fun _ => true) = d := by
  unfold Definition.pruned
  rw [Catalog.map_eq_self fun entry _ => entry.2.pruned_all]

/-- Pruning is idempotent. -/
theorem Definition.pruned_pruned (d : Definition) :
    (d.pruned keep).pruned keep = d.pruned keep := by
  have hstate : ∀ s : State, (s.pruned keep).pruned keep = s.pruned keep := by
    intro s
    unfold State.pruned
    rw [Option.filter_filter]
    simp only [Bool.and_self]
  unfold Definition.pruned
  rw [Catalog.map_map]
  simp only [hstate]

theorem Definition.state?_pruned (d : Definition) (key : Option String) :
    (d.pruned keep).state? key = (d.state? key).map (·.pruned keep) := by
  cases key with
  | none => rfl
  | some key => exact Catalog.get?_map d.states _ key

/-- Pruning commutes with `withState`. -/
theorem Definition.pruned_withState (d : Definition) (s : State) :
    (d.withState s).pruned keep
      = (d.pruned keep).withState (s.pruned keep) := by
  unfold Definition.pruned Definition.withState
  rw [Catalog.map_put]
  rfl

/-- The `problems` of a definition do not depend on its handlers. -/
theorem Definition.problems_pruned (d : Definition) :
    (d.pruned keep).problems = d.problems := by
  have hsome : ∀ key, ((d.pruned keep).state? key).isSome
      = (d.state? key).isSome := by
    intro key
    rw [d.state?_pruned, Option.isSome_map]
  have hdangling : (d.pruned keep).isDangling = d.isDangling := by
    funext t
    unfold Definition.isDangling
    rw [d.state?_pruned, Option.isNone_map]
  have hentries : (d.pruned keep).states.entries
      = d.states.entries.map fun entry => (entry.1, entry.2.pruned keep) :=
    rfl
  have hstates : ∀ key s, (d.pruned keep).stateProblems key (s.pruned keep)
      = d.stateProblems key s := by
    intro key s
    unfold Definition.stateProblems
    rw [hdangling]
    rfl
  have htemplates : (d.pruned keep).templates = d.templates := by
    unfold Definition.templates
    rw [hentries, List.flatMap_map]
    rfl
  unfold Definition.problems
  rw [hsome, htemplates, hentries, List.flatMap_map]
  simp only [hstates]
  rfl

/-- The registry with every definition pruned. -/
def Registry.pruned (keep : String → Bool) (r : Registry) : Registry where
  definitions := r.definitions.map fun _ d => d.pruned keep
  keyed id d h := by
    rw [Catalog.get?_map] at h
    obtain ⟨d', hd', rfl⟩ := Option.map_eq_some_iff.1 h
    exact r.keyed id d' hd'

namespace Registry

theorem ext {r r' : Registry} (h : r.definitions = r'.definitions) :
    r = r' := by
  cases r
  cases r'
  cases h
  rfl

theorem pruned_all (r : Registry) : r.pruned (fun _ => true) = r := by
  apply ext
  show r.definitions.map (fun _ d => d.pruned fun _ => true) = _
  exact Catalog.map_eq_self fun entry _ => entry.2.pruned_all

theorem get?_pruned (r : Registry) (id : String) :
    (r.pruned keep).get? id = (r.get? id).map (·.pruned keep) :=
  Catalog.get?_map r.definitions _ id

theorem ids_pruned (r : Registry) : (r.pruned keep).ids = r.ids :=
  Catalog.names_map r.definitions _

theorem findByTrigger_pruned (r : Registry) (intent : String) :
    (r.pruned keep).findByTrigger intent
      = (r.findByTrigger intent).map (·.pruned keep) := by
  unfold findByTrigger
  rw [show (r.pruned keep).definitions.values
    = r.definitions.values.map (·.pruned keep) from
    Catalog.values_map r.definitions _, List.find?_map]
  rfl

theorem pruned_register (r : Registry) (d : Definition) :
    (r.register d).pruned keep = (r.pruned keep).register (d.pruned keep) :=
  ext (Catalog.map_put r.definitions _ d.id d)

theorem pruned_registerAll (ds : List Definition) (r : Registry) :
    (r.registerAll ds).pruned keep
      = (r.pruned keep).registerAll (ds.map (·.pruned keep)) := by
  unfold registerAll
  induction ds generalizing r with
  | nil => rfl
  | cons d rest ih =>
      rw [List.foldl_cons, ih, List.map_cons, List.foldl_cons,
        pruned_register]

end Registry

namespace Engine

variable {H : Type u}

/-- The engine with its registry pruned. -/
def pruned (keep : String → Bool) (e : Engine H) : Engine H :=
  { e with registry := e.registry.pruned keep }

/-- The course with the state of a `capture` pruned. -/
def Course.pruned (keep : String → Bool) : Course H → Course H
  | .capture hook a s => .capture hook a (s.pruned keep)
  | course => course

/-- The plan with engine and course pruned, and without entries. -/
def Plan.pruned (keep : String → Bool) (p : Plan H) : Plan H :=
  { engine := p.engine.pruned keep, course := p.course.pruned keep }

/-- The plan without entries. -/
def Plan.bare (p : Plan H) : Plan H := { p with entries := [] }

/-- The step with the state of a `capture` pruned. -/
def Step.pruned (keep : String → Bool) : Step H → Step H
  | .capture hook a s => .capture hook a (s.pruned keep)
  | step => step

/-- The predicate `keep` holds of every name in the table of handlers. -/
def Keeps (keep : String → Bool) (e : Engine H) : Prop :=
  ∀ name, e.handlers.contains name = true → keep name = true

@[simp] theorem Plan.after_bare (entry : Log.Entry) (p : Plan H) :
    (p.after entry).bare = p.bare := rfl

@[simp] theorem Plan.after_pruned (entry : Log.Entry) (p : Plan H) :
    (p.after entry).pruned keep = p.pruned keep := rfl

theorem pruned_all (e : Engine H) : e.pruned (fun _ => true) = e := by
  unfold pruned
  rw [Registry.pruned_all]

theorem definition?_pruned (e : Engine H) (a : Activation) :
    (e.pruned keep).definition? a = (e.definition? a).map (·.pruned keep) :=
  e.registry.get?_pruned a.workflow

theorem state?_pruned (e : Engine H) (a : Activation) :
    (e.pruned keep).state? a = (e.state? a).map (·.pruned keep) := by
  unfold state?
  rw [definition?_pruned]
  cases e.definition? a with
  | none => rfl
  | some d => exact d.state?_pruned a.state

-- ============================================================== courses

variable {e : Engine H} {a : Activation}

theorem exit_pruned (e : Engine H) (a : Activation)
    (message : Option String) :
    ((e.pruned keep).exit a message).bare
      = (e.exit a message).pruned keep := by
  have hmessage : ((e.pruned keep).definition? a).map (·.exitMessage)
      = (e.definition? a).map (·.exitMessage) := by
    rw [definition?_pruned, Option.map_map]
    rfl
  unfold exit
  rw [hmessage]
  rfl

theorem enter_pruned (e : Engine H) (a : Activation) (key : String)
    (message : Option String) :
    ((e.pruned keep).enter a key message).bare
      = (e.enter a key message).pruned keep := by
  have hd : (e.pruned keep).definition? a
      = (e.definition? a).map (·.pruned keep) := definition?_pruned e a
  cases hdefinition : e.definition? a with
  | none =>
      rw [hdefinition] at hd
      rw [enter_of_missing (by rw [hd]; rfl),
        enter_of_missing (by rw [hdefinition]; rfl), Plan.after_bare,
        Plan.after_pruned, exit_pruned]
  | some d =>
      rw [hdefinition] at hd
      have hs := Catalog.get?_map d.states (fun _ s => s.pruned keep) key
      cases hstate : d.states.get? key with
      | none =>
          rw [hstate] at hs
          rw [enter_of_missing (by rw [hd]; exact hs),
            enter_of_missing (by rw [hdefinition]; exact hstate),
            Plan.after_bare, Plan.after_pruned, exit_pruned]
      | some s =>
          rw [hstate] at hs
          unfold enter
          rw [hd, hdefinition, Option.map_some, Option.bind_some,
            Option.bind_some, hstate]
          rw [show (d.pruned keep).states.get? key = some (s.pruned keep)
            from hs]
          rfl

theorem follow_pruned (e : Engine H) (a : Activation) (t : Target) :
    ((e.pruned keep).follow a t).bare = (e.follow a t).pruned keep := by
  unfold follow
  by_cases hexit : t.isExit = true
  · rw [if_pos hexit, if_pos hexit, exit_pruned]
  · rw [if_neg hexit, if_neg hexit]
    cases t.state with
    | none => rfl
    | some key => exact enter_pruned e a key t.message

theorem activate_pruned (e : Engine H) (intent : String) :
    ((e.pruned keep).activate intent).bare
      = (e.activate intent).pruned keep := by
  unfold activate
  rw [show (e.pruned keep).registry.findByTrigger intent
    = (e.registry.findByTrigger intent).map (·.pruned keep) from
    e.registry.findByTrigger_pruned intent]
  cases e.registry.findByTrigger intent with
  | none => rfl
  | some d =>
    exact enter_pruned (e.activating d) (e.activation d) d.initial none

/-- Looking up the handler of a state gives the same once the state is pruned:
a name that is not kept is not in the table. -/
theorem Keeps.handler?_pruned (h : e.Keeps keep) (s : State) :
    (s.pruned keep).handlerName?.bind e.handlers.get?
      = s.handlerName?.bind e.handlers.get? := by
  show ((s.handler.filter keep).filter (· ≠ "")).bind e.handlers.get?
    = (s.handler.filter (· ≠ "")).bind e.handlers.get?
  cases s.handler with
  | none => rfl
  | some name =>
      rw [Option.filter_some]
      cases hkeep : keep name with
      | true => rfl
      | false =>
          have hmissing : e.handlers.get? name = none := by
            rw [← Option.not_isSome_iff_eq_none]
            intro hsome
            rw [h name hsome] at hkeep
            cases hkeep
          rw [if_neg Bool.false_ne_true, Option.filter_some]
          by_cases hname : name = ""
          · rw [if_neg (by simp [hname])]
            rfl
          · rw [if_pos (decide_eq_true hname)]
            exact hmissing.symm

/-- What `offer` plans without its entries: `capture` if the handler is in the
table, `ignored` otherwise. -/
theorem offer_bare (e : Engine H) (a : Activation) (s : State) :
    (e.offer a s).bare
      = { engine := e
          course := ((s.handlerName?.bind e.handlers.get?).map
            (Course.capture · a s)).getD .ignored } := by
  unfold offer
  cases s.handlerName? with
  | none => rfl
  | some name =>
      dsimp only [Option.bind_some]
      cases e.handlers.get? name <;> rfl

theorem offer_pruned (h : e.Keeps keep) (a : Activation) (s : State) :
    ((e.pruned keep).offer a (s.pruned keep)).bare
      = (e.offer a s).pruned keep := by
  have hp : (e.offer a s).pruned keep = (e.offer a s).bare.pruned keep := rfl
  rw [hp, offer_bare, offer_bare]
  rw [show (e.pruned keep).handlers = e.handlers from rfl,
    h.handler?_pruned]
  cases s.handlerName?.bind e.handlers.get? <;> rfl

theorem consider_pruned (h : e.Keeps keep) (a : Activation) (s : State)
    (intent : String) :
    ((e.pruned keep).consider a (s.pruned keep) intent).bare
      = (e.consider a s intent).pruned keep := by
  have hdecide : (s.pruned keep).decide = s.decide := rfl
  rw [consider_eq, consider_eq, hdecide]
  cases s.decide a.counted.context.stateTurnCount intent with
  | capped cap target => exact follow_pruned (e.running a.counted) _ target
  | transition target => exact follow_pruned (e.running a.counted) _ target
  | content => exact offer_pruned (e := e.running a.counted) h _ s

/-- Without entries, `plan` commutes with pruning. -/
theorem plan_pruned (h : e.Keeps keep) (text intent : String) :
    ((e.pruned keep).plan text intent).bare
      = (e.plan text intent).pruned keep := by
  unfold plan
  rw [show (e.pruned keep).active = e.active from rfl]
  cases e.active with
  | none => exact activate_pruned e intent
  | some a =>
      have hphrase : ((e.pruned keep).definition? a).any
          (·.matchesExitPhrase text)
          = (e.definition? a).any (·.matchesExitPhrase text) := by
        rw [definition?_pruned]
        cases e.definition? a <;> rfl
      dsimp only
      rw [hphrase]
      by_cases hexit : (e.definition? a).any (·.matchesExitPhrase text) = true
      · rw [if_pos hexit, if_pos hexit, Plan.after_bare, Plan.after_pruned,
          exit_pruned]
      · rw [if_neg hexit, if_neg hexit, state?_pruned]
        cases e.state? a with
        | none => exact exit_pruned e a none
        | some s => exact consider_pruned h a s intent

/-- Without entries, `carryOut` commutes with pruning. -/
theorem Plan.carryOut_pruned (keep : String → Bool) (p : Plan H) :
    (p.pruned keep).carryOut.engine = p.bare.carryOut.engine.pruned keep
      ∧ (p.pruned keep).carryOut.step
        = p.bare.carryOut.step.pruned keep := by
  obtain ⟨engine, entries, course⟩ := p
  cases course with
  | _ => exact ⟨rfl, rfl⟩

/-- Steps that are equal once they are `pruned`. -/
inductive Step.Alike (keep : String → Bool) : Step H → Step H → Prop
  | settled (outcome : Outcome) : Alike keep (.settled outcome)
    (.settled outcome)
  | failed (fault : Fault) : Alike keep (.failed fault) (.failed fault)
  | capture (hook : H) (a : Activation) {s s' : State}
      (h : s.pruned keep = s'.pruned keep) :
      Alike keep (.capture hook a s) (.capture hook a s')

theorem Step.Alike.of_pruned {x y : Step H}
    (h : x.pruned keep = y.pruned keep) : x.Alike keep y := by
  cases x with
  | settled outcome =>
      cases y with
      | settled other =>
          cases h
          exact .settled outcome
      | _ => cases h
  | failed fault =>
      cases y with
      | failed other =>
          cases h
          exact .failed fault
      | _ => cases h
  | capture hook a s =>
      cases y with
      | capture other b s' =>
          injection h with hhook ha hs
          rw [hhook, ha]
          exact .capture other b hs
      | _ => cases h

/-- A `plan` leaves the table of handlers as it is. -/
theorem plan_handlers (e : Engine H) (text intent : String) :
    (e.plan text intent).engine.handlers = e.handlers := by
  have hgoes : ∀ {e' : Engine H} {a : Activation}, e'.handlers = e.handlers →
      (e.plan text intent).Continues e' a →
      (e.plan text intent).engine.handlers = e.handlers := by
    intro e' a he' h
    obtain ⟨b, -, hengine⟩ := h.engine
    rw [hengine]
    exact he'
  cases hactive : e.active with
  | some a => exact hgoes rfl (plan_continues hactive text intent)
  | none =>
      rcases plan_idle hactive text intent with ⟨-, heq⟩ | ⟨d, -, -, h⟩
      · rw [heq]
      · exact @hgoes (e.activating d) _ rfl h

theorem Plan.carryOut_handlers (p : Plan H) :
    p.carryOut.engine.handlers = p.engine.handlers := by
  obtain ⟨engine, entries, course⟩ := p
  cases course with
  | _ => rfl

-- ============================================================ capturing

/-- Whether `isCapturing` holds and the handler is in the table. -/
def isServed (e : Engine H) : Bool := e.isCapturing && e.named?.isSome

/-- Whether `isCapturing` holds and the handler is not in the table. -/
def isUnserved (e : Engine H) : Bool := e.isCapturing && e.named?.isNone

theorem isUnserved_eq (e : Engine H) :
    e.isUnserved = (e.isCapturing && !e.isServed) := by
  unfold isUnserved isServed
  cases e.isCapturing with
  | false => rfl
  | true => rw [Bool.true_and, Bool.true_and, Bool.true_and, Option.not_isSome]

/-- An engine that `isCapturing` is served or unserved. -/
theorem isCapturing_eq (e : Engine H) :
    e.isCapturing = (e.isServed || e.isUnserved) := by
  unfold isServed isUnserved
  rw [← Bool.and_or_distrib_left, ← Option.not_isSome, Bool.or_not_self,
    Bool.and_true]

/-- Pruning keeps `isServed`. -/
theorem isServed_pruned (h : e.Keeps keep) :
    (e.pruned keep).isServed = e.isServed := by
  have hstate : (e.pruned keep).active.bind (e.pruned keep).state?
      = (e.active.bind e.state?).map (·.pruned keep) := by
    show e.active.bind (e.pruned keep).state? = _
    cases e.active with
    | none => rfl
    | some a => exact state?_pruned e a
  unfold isServed isCapturing named?
  rw [hstate]
  cases e.active.bind e.state? with
  | none => rfl
  | some s =>
      rw [Option.map_some, Option.any_some, Option.any_some, Option.bind_some,
        Option.bind_some, show (e.pruned keep).handlers = e.handlers from rfl,
        h.handler?_pruned]
      cases hhook : s.handlerName?.bind e.handlers.get? with
      | none => rw [Option.isSome_none, Bool.and_false, Bool.and_false]
      | some hook =>
          -- there is a handler, so both states name one
          have hpruned := (h.handler?_pruned s).trans hhook
          obtain ⟨name, hname, -⟩ := Option.bind_eq_some_iff.1 hhook
          obtain ⟨name', hname', -⟩ := Option.bind_eq_some_iff.1 hpruned
          unfold State.isCapture
          rw [hname, hname']
          rfl

/-- While `isCapturing` holds, the plan does not depend on the intent. -/
theorem plan_of_isCapturing (h : e.isCapturing = true)
    (text intent intent' : String) :
    e.plan text intent = e.plan text intent' := by
  obtain ⟨s, hs, hcapture⟩ := (Option.any_eq_true ..).1 h
  obtain ⟨a, ha, hstate⟩ := Option.bind_eq_some_iff.1 hs
  have htarget : s.targetFor intent = s.targetFor intent' := by
    rw [State.targetFor_of_isCapture hcapture,
      State.targetFor_of_isCapture hcapture]
  cases hends : e.endsBy a text with
  | true => rw [plan_of_endsBy ha hends, plan_of_endsBy ha hends]
  | false =>
      rw [plan_of_state ha hends hstate, plan_of_state ha hends hstate,
        consider_eq, consider_eq, State.decide_eq_of_targetFor_eq htarget]

-- ============================================================ two engines

section Pairs

variable {e' : Engine H} (h : e.pruned keep = e'.pruned keep)
  (hkeeps : e.Keeps keep)
include h

/-- If two engines are equal once pruned and one `Keeps` its handlers, so does
the other. -/
theorem Keeps.of_pruned_eq (hkeeps : e.Keeps keep) : e'.Keeps keep := by
  have hhandlers : (e.pruned keep).handlers = (e'.pruned keep).handlers := by
    rw [h]
  intro name hname
  rw [show e'.handlers = e.handlers from hhandlers.symm] at hname
  exact hkeeps name hname

include hkeeps

/-- Engines that are equal once pruned have plans that are equal once pruned.
-/
theorem plan_alike (text intent : String) :
    (e.plan text intent).pruned keep = (e'.plan text intent).pruned keep := by
  rw [← plan_pruned hkeeps, ← plan_pruned (hkeeps.of_pruned_eq h), h]

/-- If one of them `isCapturing`, their pruned plans do not depend on the
intent either. -/
theorem plan_alike_of_isCapturing
    (hcapture : e.isCapturing = true ∨ e'.isCapturing = true)
    (text intent intent' : String) :
    (e.plan text intent).pruned keep
      = (e'.plan text intent').pruned keep := by
  rcases hcapture with hcapture | hcapture
  · rw [plan_of_isCapturing hcapture text intent intent']
    exact plan_alike h hkeeps text intent'
  · rw [plan_of_isCapturing hcapture text intent' intent]
    exact plan_alike h hkeeps text intent

/-- Engines that are equal once pruned agree on `isServed`. -/
theorem isServed_eq : e.isServed = e'.isServed := by
  rw [← isServed_pruned hkeeps,
    ← isServed_pruned (hkeeps.of_pruned_eq h), h]

end Pairs

end Engine
end Colloquy
