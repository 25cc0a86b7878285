/-
Inputs that end a workflow. All ways out agree on what is said, to whom,
and when (`run_handle_leaves`). The action names the workflow that was
running, with its context as it is once the input is counted, or not; a
stray stays in the buffer. The message is rendered over that context. It is
made before the engine is idle, and the engine is idle before the first
listener hears of it: up to there nothing has been seen, and from there on
there is the telling and nothing else.

The ways themselves are in the module about the engine. Nothing is asked of
the stage here, so it makes no difference what was registered before, and
by whom: an input that a listener or a handler gives to the engine is run
like any other.
-/
import Colloquy.Proofs.Engine.Leaving
import Colloquy.Proofs.Script.Registering

namespace Colloquy

namespace Script

-- =========================================================== carrying out

/-- With the engine of a plan that has `a` running, the stray is that of
`a`. -/
theorem Stage.stray?_planned (s : Stage) {p : Engine.Plan Hook}
    {a : Activation} (hactive : p.engine.active = some a) :
    (s.planned p).stray? = s.strays.lookup a.serial := by
  unfold Stage.stray?
  rw [show (s.planned p).engine.active = some a from hactive]
  rfl

/-- If a plan leaves an activation, `carryOut` shows the stray of this
activation and makes the engine idle. -/
theorem carryOut_leave {p : Engine.Plan Hook} {a : Activation}
    {template : String} (hcourse : p.course = .leave a template)
    (hactive : p.engine.active = some a) {s t : Stage}
    {step : Engine.Step Hook} {stray : Option Stray}
    (h : carryOut p s = (.ok (step, stray), t)) :
    stray = s.strays.lookup a.serial
      ∧ t.engine = { p.engine with active := none } := by
  have hstray := s.stray?_planned hactive
  rcases carryOut_concludes p s with hcarry | ⟨-, -, fault, hcarry⟩
  · rw [hcarry] at h
    obtain ⟨engine, entries, course⟩ := p
    cases hcourse
    cases h
    exact ⟨hstray, rfl⟩
  · cases hcarry.symm.trans h

/-- A plan that leaves an activation is carried out, unless there is an
`obstacle?` to the message. -/
theorem carryOut_unobstructed {p : Engine.Plan Hook} {a : Activation}
    {template : String} (hcourse : p.course = .leave a template)
    (hactive : p.engine.active = some a) {s : Stage}
    (hclear : ∀ stray, s.strays.lookup a.serial = some stray →
      obstacle? stray a.context template = none) :
    ∃ t, carryOut p s
      = (.ok (p.carryOut.step, s.strays.lookup a.serial), t) := by
  have hstray := s.stray?_planned hactive
  have hdemand : demand (some template) (s.planned p)
      = (.ok (), s.planned p) := by
    unfold demand
    rw [get_bind_apply, hstray]
    cases hlookup : s.strays.lookup a.serial with
    | none => rfl
    | some stray =>
        have hcontext : (s.planned p).engine.context = a.context := by
          unfold Engine.context
          rw [show (s.planned p).engine.active = some a from hactive]
          rfl
        dsimp only
        rw [hcontext, hclear stray hlookup]
        rfl
  have htemplate : p.course.template? = some template := by
    rw [hcourse]
    rfl
  rw [carryOut_eq, htemplate, bind_of_ok hdemand, ← hstray]
  obtain ⟨engine, entries, course⟩ := p
  dsimp only at hcourse
  subst hcourse
  exact ⟨_, rfl⟩

-- ============================================================== the input

/-- What `captured` gives is no `exitWorkflow`. -/
theorem captured_ne_exit (e : Engine Hook) (state : State)
    (workflow message : String) (context : Context) :
    e.captured state ≠ .ok (.exitWorkflow workflow message context) := by
  unfold Engine.captured
  cases e.active with
  | none => exact nofun
  | some a => exact nofun

/-- If `handle` comes to an exit, `carryOut` settled it, and then listeners are
told. -/
theorem handle_leaves {inner : Operation → Run Reply} {text intent : String}
    {s : Stage} {workflow message : String} {context : Context}
    {stray : Option Stray}
    (h : (handle inner text intent s).1
      = .ok (.done (.exitWorkflow workflow message context), stray)) :
    ∃ t, carryOut (s.engine.plan text intent) s
        = (.ok (.settled (.done (.exitWorkflow workflow message context)),
          stray), t)
      ∧ (handle inner text intent s).2
        = (dispatch inner (.exitWorkflow workflow message context) stray
          t).2 := by
  rcases hcarry : carryOut (s.engine.plan text intent) s
    with ⟨fault | ⟨step, stray'⟩, t⟩
  · unfold handle at h
    rw [get_bind_apply, bind_of_error hcarry] at h
    cases h
  cases step with
  | settled outcome =>
      cases (handle_settled hcarry).symm.trans h
      refine ⟨t, rfl, ?_⟩
      unfold handle
      rw [get_bind_apply, bind_of_ok hcarry]
      show (((dispatch inner (.exitWorkflow workflow message context) stray
        >>= fun _ => pure ()) >>= fun _ => pure _) t).2 = _
      rw [bind_stage fun _ _ => rfl, bind_stage fun _ _ => rfl]
  | failed fault =>
      unfold handle at h
      rw [get_bind_apply, bind_of_ok hcarry] at h
      cases h
  | capture hook a state =>
      unfold handle at h
      rw [get_bind_apply, bind_of_ok hcarry] at h
      obtain ⟨-, u, -, h⟩ := bind_eq_ok h
      rw [get_bind_apply] at h
      cases hcaptured : u.engine.captured state with
      | error fault =>
          rw [hcaptured] at h
          cases h
      | ok action =>
          rw [hcaptured] at h
          obtain ⟨-, v, -, h⟩ := bind_eq_ok h
          cases h
          exact absurd hcaptured (captured_ne_exit _ _ _ _ _)

-- ============================================================== what it is

/-- An input ends a workflow with an action. There is a `WayOut`, which the
action tells of: the workflow, the context as it is then and the stray in its
buffer are those of the activation that ends, and the message is the `farewell`
that the way calls for, over that context. What was running is counted as the
input counts, and remembers what it did; an idle engine has activated the
workflow, and nothing is in its context. The engine has become idle with
nothing else seen or heard, and then listeners are told. -/
structure Stage.LeavesWith (s : Stage) (text intent : String)
    (workflow message : String) (context : Context) (stray : Option Stray) :
    Prop where
  way : ∃ a override, s.engine.WayOut text intent a override
    ∧ workflow = a.workflow ∧ context = a.context
    ∧ stray = s.strays.lookup a.serial
    ∧ message
      = Template.render (s.engine.farewell workflow override) context
  running : ∀ b, s.engine.active = some b → workflow = b.workflow
    ∧ context = (if s.engine.counts text then b.context.countTurn
      else b.context)
    ∧ context.memory = b.context.memory
    ∧ stray = s.strays.lookup b.serial
  starting : s.engine.active = none →
    ∃ d, s.engine.registry.findByTrigger intent = some d
      ∧ workflow = d.id ∧ context = {}
  told : ∃ t : Stage, t.engine.active = none
    ∧ t.engine.registry = s.engine.registry
    ∧ t.audience = s.afresh.audience
    ∧ (run (.handle text intent) s).2.afresh
      = (dispatch run (.exitWorkflow workflow message context) stray
        t).2.afresh

section

variable {s : Stage} {text intent : String}

/-- An input that comes to an exit `LeavesWith` what the exit says. -/
theorem Stage.leavesWith {workflow message : String} {context : Context}
    {stray : Option Stray}
    (h : (run (.handle text intent) s).1
      = .ok (.outcome (.done (.exitWorkflow workflow message context))
        stray)) :
    s.LeavesWith text intent workflow message context stray := by
  rw [run_handle_result] at h
  rcases hresult : (Script.handle run text intent s.afresh).1
    with fault | ⟨outcome, stray'⟩
  · rw [hresult] at h
    cases h
  rw [hresult] at h
  cases h
  obtain ⟨t, hcarry, hstage⟩ := handle_leaves hresult
  -- the plan leaves the workflow, by one of the ways
  obtain ⟨a, template, hcourse, rfl, rfl, rfl⟩ :
      ∃ a template, (s.engine.plan text intent).course = .leave a template
        ∧ workflow = a.workflow ∧ context = a.context
        ∧ message = Template.render template context := by
    rcases carryOut_cases (s.engine.plan text intent) s.afresh
      with ⟨-, -, fault, u, hcarry', -⟩ | ⟨stray', u, hcarry', -⟩
    · cases hcarry'.symm.trans hcarry
    · have hstep := congrArg (Except.map Prod.fst ∘ Prod.fst)
        (hcarry'.symm.trans hcarry)
      exact Engine.Plan.course_of_exit (Except.ok.inj hstep)
  obtain ⟨hactive, hregistry⟩ := Engine.plan_leaving hcourse
  obtain ⟨hstray, hengine⟩ := carryOut_leave hcourse hactive hcarry
  obtain ⟨override, hway, rfl⟩ := Engine.plan_leave_iff.1 hcourse
  refine ⟨⟨a, override, hway, rfl, rfl, hstray, rfl⟩, fun b hb => ?_,
    fun hidle => ?_, t, ?_, ?_, ?_, ?_⟩
  · rw [hstray, hway.eq_of_active hb]
    cases s.engine.counts text with
    | true => exact ⟨rfl, rfl, rfl, rfl⟩
    | false => exact ⟨rfl, rfl, rfl, rfl⟩
  · obtain ⟨d, hd, rfl⟩ := hway.eq_of_idle hidle
    exact ⟨d, hd, rfl, rfl⟩
  · rw [hengine]
  · rw [hengine]
    exact hregistry
  · have hframe := (carryOut_backstage (s.engine.plan text intent)).frame
      s.afresh
    rw [show s.afresh.engine = s.engine from rfl] at hcarry
    rw [hcarry] at hframe
    exact hframe
  · have hsame : (perform run (.handle text intent) s.afresh).2
        = (Script.handle run text intent s.afresh).2 :=
      bind_stage (fun _ _ => rfl) s.afresh
    rw [run_afresh, hsame, hstage]

/-- Where there is a `WayOut`, the workflow ends that way, unless there is an
`obstacle?` to the message. -/
theorem run_handle_unobstructed {a : Activation} {override : Option String}
    (hway : s.engine.WayOut text intent a override)
    (hclear : ∀ stray, s.strays.lookup a.serial = some stray →
      obstacle? stray a.context (s.engine.farewell a.workflow override)
        = none) :
    (run (.handle text intent) s).1
      = .ok (.outcome (.done (.exitWorkflow a.workflow
        (Template.render (s.engine.farewell a.workflow override) a.context)
        a.context)) (s.strays.lookup a.serial)) := by
  have hcourse : (s.engine.plan text intent).course
      = .leave a (s.engine.farewell a.workflow override) :=
    Engine.plan_leave_iff.2 ⟨override, hway, rfl⟩
  obtain ⟨t, hcarry⟩ := carryOut_unobstructed (s := s.afresh) hcourse
    (Engine.plan_leaving hcourse).1 hclear
  have hstep : (s.engine.plan text intent).carryOut.step
      = .settled (.done (.exitWorkflow a.workflow
        (Template.render (s.engine.farewell a.workflow override) a.context)
        a.context)) := by
    unfold Engine.Plan.carryOut
    rw [hcourse]
  rw [hstep] at hcarry
  have hhandle : (Script.handle run text intent s.afresh).1
      = .ok (_, s.strays.lookup a.serial) := handle_settled hcarry
  rw [run_handle_result, hhandle]
  rfl

/-- All ways out of a workflow agree, at any stage and for any input. Where an
input comes to an exit, it is one of the ways out, and what is said of it is
what that way calls for (`Stage.LeavesWith`); and every `WayOut` is taken, if
no stray keeps the message from being made. -/
theorem run_handle_leaves (s : Stage) (text intent : String) :
    (∀ workflow message context stray,
      (run (.handle text intent) s).1
        = .ok (.outcome (.done (.exitWorkflow workflow message context))
          stray) →
      s.LeavesWith text intent workflow message context stray)
    ∧ ∀ a override, s.engine.WayOut text intent a override →
      s.strays.lookup a.serial = none →
      (run (.handle text intent) s).1
        = .ok (.outcome (.done (.exitWorkflow a.workflow
          (Template.render (s.engine.farewell a.workflow override) a.context)
          a.context)) none) := by
  refine ⟨fun _ _ _ _ h => Stage.leavesWith h,
    fun a override hway hclear => ?_⟩
  have hunobstructed : ∀ stray, s.strays.lookup a.serial = some stray →
      obstacle? stray a.context (s.engine.farewell a.workflow override)
        = none := by
    rw [hclear]
    exact nofun
  have hresult := run_handle_unobstructed hway hunobstructed
  rwa [hclear] at hresult

end

end Script
end Colloquy
