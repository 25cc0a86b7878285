/-
An engine over another registry. The engine asks its registry for the running
workflow by its id, and while it is running for nothing else. So a registry
may be put in the place of another one that has the same under that id: an
input leads where it led, and lies over the new registry instead
(`plan_upon`). Carrying the plan out asks the registry for nothing
(`Plan.upon_carryOut`).
-/
import Colloquy.Proofs.Engine.Course

namespace Colloquy

universe u

namespace Engine

variable {H : Type u} {e : Engine H} {a : Activation} {r : Registry}

-- ================================================================ engines

/-- The engine over the registry `r`. -/
def upon (e : Engine H) (r : Registry) : Engine H := { e with registry := r }

/-- The plan with its engine over the registry `r`. -/
def Plan.upon (p : Plan H) (r : Registry) : Plan H :=
  { p with engine := p.engine.upon r }

theorem Plan.upon_after (entry : Log.Entry) (p : Plan H) :
    (p.upon r).after entry = (p.after entry).upon r := rfl

/-- Carrying out commutes with `upon`, and entries and step are the same. -/
theorem Plan.upon_carryOut (p : Plan H) (r : Registry) :
    (p.upon r).carryOut.engine = p.carryOut.engine.upon r
      ∧ (p.upon r).carryOut.entries = p.carryOut.entries
      ∧ (p.upon r).carryOut.step = p.carryOut.step := by
  obtain ⟨engine, entries, course⟩ := p
  cases course with
  | _ => exact ⟨rfl, rfl, rfl⟩

section Upon

variable (hr : r.get? a.workflow = e.registry.get? a.workflow)
include hr

theorem definition?_upon : (e.upon r).definition? a = e.definition? a := hr

theorem state?_upon : (e.upon r).state? a = e.state? a := by
  unfold state?
  rw [definition?_upon hr]

theorem exit_upon (message : Option String) :
    (e.upon r).exit a message = (e.exit a message).upon r := by
  unfold exit
  rw [definition?_upon hr]
  rfl

theorem enter_upon (key : String) (message : Option String) :
    (e.upon r).enter a key message = (e.enter a key message).upon r := by
  unfold enter
  rw [definition?_upon hr, exit_upon hr]
  cases (e.definition? a).bind fun d =>
      (d.states.get? key).map fun s => (d, s) with
  | none => rfl
  | some found => rfl

theorem follow_upon (t : Target) :
    (e.upon r).follow a t = (e.follow a t).upon r := by
  unfold follow
  rw [exit_upon hr]
  by_cases hexit : t.isExit = true
  · rw [if_pos hexit, if_pos hexit]
  · rw [if_neg hexit, if_neg hexit]
    cases t.state with
    | none => rfl
    | some key => exact enter_upon hr key t.message

end Upon

theorem offer_upon (e : Engine H) (a : Activation) (s : State)
    (r : Registry) : (e.upon r).offer a s = (e.offer a s).upon r := by
  unfold offer
  cases s.handlerName? with
  | none => rfl
  | some name =>
      dsimp only
      rw [show (e.upon r).handlers = e.handlers from rfl]
      cases e.handlers.get? name with
      | none => rfl
      | some handler => rfl

theorem consider_upon (hr : r.get? a.workflow = e.registry.get? a.workflow)
    (s : State) (intent : String) :
    (e.upon r).consider a s intent = (e.consider a s intent).upon r := by
  have hcounted : r.get? a.counted.workflow
      = (e.running a.counted).registry.get? a.counted.workflow := hr
  have hrunning : (e.upon r).running a.counted
      = (e.running a.counted).upon r := rfl
  rw [consider_eq, consider_eq, hrunning]
  cases s.decide a.counted.context.stateTurnCount intent with
  | capped cap target =>
      dsimp only
      rw [follow_upon hcounted, Plan.upon_after]
  | transition target => exact follow_upon hcounted target
  | content => exact offer_upon _ _ s r

/-- While a workflow is running, `plan` commutes with `upon` for a registry
that has the same definition of that workflow. -/
theorem plan_upon (hactive : e.active = some a)
    (hr : r.get? a.workflow = e.registry.get? a.workflow)
    (text intent : String) :
    (e.upon r).plan text intent = (e.plan text intent).upon r := by
  unfold plan
  rw [show (e.upon r).active = e.active from rfl, hactive]
  dsimp only
  rw [definition?_upon hr, state?_upon hr, exit_upon hr, Plan.upon_after,
    Plan.upon_after]
  by_cases hphrase : (e.definition? a).any (·.matchesExitPhrase text) = true
  · rw [if_pos hphrase, if_pos hphrase]
  · rw [if_neg hphrase, if_neg hphrase]
    cases e.state? a with
    | none => rfl
    | some s => exact consider_upon hr s intent

end Engine

end Colloquy
