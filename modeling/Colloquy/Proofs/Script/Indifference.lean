/-
What an input is not asked for. An engine looks at an input in a fixed
order, and stops as soon as it knows where the input leads. An idle engine
looks at the intent alone. At a running workflow the text is looked at for
an exit phrase; the intent is looked at only below the cap of the active
state, and only for the target that it leads to; and where it leads nowhere
the text goes to the handler, if there is one.

`Engine.Confuses` says which two inputs cannot be told apart by looking so.
They have the same plan, and a handler runs only where their texts are the
same (`Engine.Confuses.plan_eq`). So they come to the same, and leave the
same stage behind, but for the journal, which holds the inputs themselves
(`run_handle_indifferent`). Nothing that runs later can tell which of them
it was.

Nothing is asked of handlers and listeners here: what a handler does
depends on its text and on the stage, and what a listener does on the action
and on the stage.
-/
import Colloquy.Proofs.Engine.Caps
import Colloquy.Proofs.Script.Bypass

namespace Colloquy

universe u

/-- The intent is none of the state's transitions, or is the wildcard. -/
def State.IsOther (s : State) (intent : String) : Prop :=
  intent = State.wildcard ∨ s.transitions.get? intent = none

/-- For all other intents `targetFor` finds the target of the wildcard. -/
theorem State.IsOther.targetFor_eq {s : State} {intent : String}
    (h : s.IsOther intent) :
    s.targetFor intent = s.transitions.get? State.wildcard := by
  unfold State.targetFor
  rcases h with rfl | h
  · exact Option.or_self
  · rw [h, Option.none_or]

namespace Engine

variable {H : Type u}

/-- One more input is beyond the state's `turnCap`. -/
def IsBeyond (a : Activation) (s : State) : Prop :=
  ∃ cap, s.turnCap = some cap ∧ cap < a.context.stateTurnCount + 1

section

variable (e : Engine H) (text intent text' intent' : String)

/-- Two inputs that the state `s` does not tell apart: one more input
`IsBeyond` the cap, or `targetFor` finds the same target for both, or none for
either and there is one text, or no handler to take it. -/
inductive ConfusesAt (a : Activation) (s : State) : Prop
  | capped (hbeyond : IsBeyond a s)
  | target {t : Target} (hleads : s.targetFor intent = some t)
      (hleads' : s.targetFor intent' = some t)
  | content (hleads : s.targetFor intent = none)
      (hleads' : s.targetFor intent' = none) (htext : text = text')
  | unhandled (hleads : s.targetFor intent = none)
      (hleads' : s.targetFor intent' = none)
      (hhandler : s.handlerName?.bind e.handlers.get? = none)

/-- Two inputs that an engine does not tell apart: it is idle and they have one
intent, or both match an exit phrase, or neither does and the active state is
missing, or `ConfusesAt` holds of it. -/
inductive Confuses : Prop
  | idle (hidle : e.active = none) (hintent : intent = intent')
  | phrase {a : Activation} (hactive : e.active = some a)
      (hends : e.endsBy a text = true) (hends' : e.endsBy a text' = true)
  | vanished {a : Activation} (hactive : e.active = some a)
      (hends : e.endsBy a text = false) (hends' : e.endsBy a text' = false)
      (hstate : e.state? a = none)
  | state {a : Activation} {s : State} (hactive : e.active = some a)
      (hends : e.endsBy a text = false) (hends' : e.endsBy a text' = false)
      (hstate : e.state? a = some s)
      (hat : e.ConfusesAt text intent text' intent' a s)

end

-- ======================================================= where they lead

variable {e : Engine H} {a : Activation} {s : State}
  {text intent text' intent' : String}

/-- If `targetFor` finds a target, `consider` has no `hook?`. -/
theorem consider_hook_of_leads {t : Target} (h : s.targetFor intent = some t)
    (e : Engine H) (a : Activation) :
    (e.consider a s intent).course.hook? = none := by
  rw [Engine.consider_eq]
  unfold State.decide
  rw [h]
  cases s.turnCap.filter (a.counted.context.stateTurnCount > ·) with
  | none => exact follow_hook ..
  | some cap => exact follow_hook ..

/-- For inputs that the state does not tell apart `consider` is the same, and
it has a `hook?` only if the texts are equal. -/
theorem ConfusesAt.consider_eq
    (h : e.ConfusesAt text intent text' intent' a s) :
    e.consider a s intent = e.consider a s intent'
      ∧ ((e.consider a s intent).course.hook? = none ∨ text = text') := by
  have hsame : s.targetFor intent = s.targetFor intent' →
      e.consider a s intent = e.consider a s intent' := by
    intro htarget
    rw [Engine.consider_eq, Engine.consider_eq,
      State.decide_eq_of_targetFor_eq htarget]
  cases h with
  | capped hbeyond =>
      obtain ⟨cap, hcap, hturn⟩ := hbeyond
      rw [consider_redirected hcap hturn, consider_redirected hcap hturn]
      exact ⟨rfl, .inl (redirected_hook e a s)⟩
  | target hleads hleads' =>
      refine ⟨hsame (hleads.trans hleads'.symm), .inl ?_⟩
      exact consider_hook_of_leads hleads e a
  | content hleads hleads' htext =>
      exact ⟨hsame (hleads.trans hleads'.symm), .inr htext⟩
  | unhandled hleads hleads' hhandler =>
      refine ⟨hsame (hleads.trans hleads'.symm), .inl ?_⟩
      refine Option.eq_none_iff_forall_ne_some.2 fun hook hhook => ?_
      cases hhandler.symm.trans (consider_hook hhook)

/-- For inputs that the engine does not tell apart `plan` is the same, and it
has a `hook?` only if the texts are equal. -/
theorem Confuses.plan_eq (h : e.Confuses text intent text' intent') :
    e.plan text intent = e.plan text' intent'
      ∧ ((e.plan text intent).course.hook? = none ∨ text = text') := by
  cases h with
  | idle hidle hintent =>
      subst hintent
      have hplan : ∀ text, e.plan text intent = e.activate intent := by
        intro text
        unfold plan
        rw [hidle]
      have hnamed : e.named? = none := by
        rw [named?, hidle]
        rfl
      refine ⟨(hplan text).trans (hplan text').symm, .inl ?_⟩
      refine Option.eq_none_iff_forall_ne_some.2 fun hook hhook => ?_
      cases hnamed.symm.trans (plan_hook hhook)
  | phrase hactive hends hends' =>
      rw [plan_of_endsBy hactive hends, plan_of_endsBy hactive hends']
      exact ⟨rfl, .inl rfl⟩
  | vanished hactive hends hends' hstate =>
      rw [plan_of_vanished hactive hends hstate,
        plan_of_vanished hactive hends' hstate]
      exact ⟨rfl, .inl rfl⟩
  | state hactive hends hends' hstate hat =>
      rw [plan_of_state hactive hends hstate,
        plan_of_state hactive hends' hstate]
      exact hat.consider_eq

end Engine

namespace Script

-- ============================================================== one stage

/-- From `s`, the operations `op` and `op'` come to the same, leave the same
behind but for the journal, and whatever runs later comes to the same. -/
structure Stage.Merges (s : Stage) (op op' : Operation) : Prop where
  result : (run op s).1 = (run op' s).1
  stage : (run op s).2.afresh = (run op' s).2.afresh
  later : ∀ ops,
    (runAll ops (run op s).2).1 = (runAll ops (run op' s).2).1

/-- What `runAll` comes to does not depend on the journal. -/
theorem runAll_result (ops : List Operation) {s s' : Stage}
    (h : s.afresh = s'.afresh) : (runAll ops s).1 = (runAll ops s').1 := by
  induction ops generalizing s s' with
  | nil => rfl
  | cons op rest ih =>
      have hresult : (run op s).1 = (run op s').1 := by
        rw [run_result, run_result, h]
      have hstage : (run op s).2.afresh = (run op s').2.afresh := by
        rw [run_afresh, run_afresh, h]
      exact congrArg₂ List.cons hresult (ih hstage)

/-- Operations for which `perform` does the same merge. -/
theorem Stage.Merges.of_perform {s : Stage} {op op' : Operation}
    (h : perform run op s.afresh = perform run op' s.afresh) :
    s.Merges op op' := by
  have hstage : (run op s).2.afresh = (run op' s).2.afresh := by
    rw [run_afresh, run_afresh, h]
  refine ⟨?_, hstage, fun ops => runAll_result ops hstage⟩
  rw [run_result, run_result, h]

/-- For inputs with one plan `handle` does the same, if there is no `hook?` or
the texts are equal. -/
theorem handle_eq_of_plan_eq (inner : Operation → Run Reply) {s : Stage}
    {text intent text' intent' : String}
    (hplan : s.engine.plan text intent = s.engine.plan text' intent')
    (htext : (s.engine.plan text intent).course.hook? = none
      ∨ text = text') :
    handle inner text intent s = handle inner text' intent' s := by
  unfold handle
  rw [get_bind_apply, get_bind_apply, ← hplan]
  rcases htext with hhook | rfl
  · generalize s.engine.plan text intent = p at hhook
    rcases carryOut_cases p s
      with ⟨-, -, fault, t, hcarry, -⟩ | ⟨stray, t, hcarry, -⟩
    · rw [bind_of_error hcarry, bind_of_error hcarry]
    · rw [bind_of_ok hcarry, bind_of_ok hcarry]
      obtain ⟨engine, entries, course⟩ := p
      cases course with
      | capture hook a state => cases hhook
      | _ => rfl
  · rfl

/-- Inputs that the engine `Confuses` merge. -/
theorem Stage.merges_of_confuses {s : Stage}
    {text intent text' intent' : String}
    (h : s.engine.Confuses text intent text' intent') :
    s.Merges (.handle text intent) (.handle text' intent') := by
  obtain ⟨hplan, htext⟩ := h.plan_eq
  have hhandle : Script.handle run text intent s.afresh
      = Script.handle run text' intent' s.afresh :=
    handle_eq_of_plan_eq run hplan htext
  refine .of_perform ?_
  simp only [perform]
  rw [bind_apply, bind_apply, hhandle]

section

variable {s : Stage} {a : Activation} {state : State}
  (hactive : s.engine.active = some a)
  (hstate : s.engine.state? a = some state)
include hactive hstate

/-- Inputs with one text and with intents that `ConfusesAt` the active state
merge: if the text matches an exit phrase, the intents are not looked at. -/
theorem Stage.merges_of_confusesAt {text intent intent' : String}
    (h : s.engine.ConfusesAt text intent text intent' a state) :
    s.Merges (.handle text intent) (.handle text intent') := by
  cases hends : s.engine.endsBy a text with
  | true => exact merges_of_confuses (.phrase hactive hends hends)
  | false => exact merges_of_confuses (.state hactive hends hends hstate h)

/-- Inputs with one text and with intents of which `IsOther` holds merge. -/
theorem Stage.merges_of_isOther (text : String) {intent intent' : String}
    (h : state.IsOther intent) (h' : state.IsOther intent') :
    s.Merges (.handle text intent) (.handle text intent') := by
  refine merges_of_confusesAt hactive hstate ?_
  have hleads := h.targetFor_eq
  have hleads' := h'.targetFor_eq
  cases hwildcard : state.transitions.get? State.wildcard with
  | none =>
      rw [hwildcard] at hleads hleads'
      exact .content hleads hleads' rfl
  | some t =>
      rw [hwildcard] at hleads hleads'
      exact .target hleads hleads'

/-- At a capturing state, or beyond the cap, inputs with one text merge. -/
theorem Stage.merges_of_deaf
    (h : state.isCapture = true ∨ Engine.IsBeyond a state)
    (text intent intent' : String) :
    s.Merges (.handle text intent) (.handle text intent') := by
  refine merges_of_confusesAt hactive hstate ?_
  rcases h with hcapture | hbeyond
  · have hnone := State.targetFor_of_isCapture hcapture
    exact .content (hnone intent) (hnone intent') rfl
  · exact .capped hbeyond

end

/-- An input is asked for no more than it takes to know where it leads. Two
inputs that the engine `Confuses` merge: they come to the same, and nothing
that runs later shows which of them it was. At an active state, so do two
intents with one text if `IsOther` holds of both; and any two if every input is
content there or the cap is used up. -/
theorem run_handle_indifferent (s : Stage) :
    (∀ text intent text' intent',
      s.engine.Confuses text intent text' intent' →
      s.Merges (.handle text intent) (.handle text' intent'))
    ∧ ∀ a state, s.engine.active = some a →
      s.engine.state? a = some state →
      (∀ text intent intent', state.IsOther intent →
        state.IsOther intent' →
        s.Merges (.handle text intent) (.handle text intent'))
      ∧ (state.isCapture = true ∨ Engine.IsBeyond a state →
        ∀ text intent intent',
          s.Merges (.handle text intent) (.handle text intent')) := by
  refine ⟨fun _ _ _ _ h => Stage.merges_of_confuses h, ?_⟩
  intro a state hactive hstate
  refine ⟨fun text _ _ h h' => ?_, fun h text intent intent' => ?_⟩
  · exact Stage.merges_of_isOther hactive hstate text h h'
  · exact Stage.merges_of_deaf hactive hstate h text intent intent'

end Script
end Colloquy
