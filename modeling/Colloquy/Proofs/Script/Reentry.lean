/-
Handlers that call the engine again. A handler runs in the middle of an
input: the turn is counted, and the action is not made yet. Whatever it
runs in between, inputs and resets included, has happened by the time the
engine goes on, and the engine then looks at itself anew. So the action of
the input names what is active after the handler, which need not be what
the handler was chosen for; and after a handler that left the engine idle
there is nothing to name, and the input fails.

Which of these it is can be read off the engine after the handler
(`run_handle_reenters`). Operations that neither give inputs nor reset move
nothing, so a handler that runs no others is named as it was chosen
(`Reenters.still`).

# Writing

A handler holds on to the context that it was given. It writes under the
number of the activation that it was chosen for, and an activation that
starts later has a later number, so nothing that the handler writes gets
there. Contexts and what stands in their buffers are meant here. A list
that two buffers share is one list.
-/
import Colloquy.Proofs.Script.Registering

namespace Colloquy

/-- The state that is named when the handler of `s` took an input of the
activation: its key, or the id of `s` if the key is empty. -/
def Activation.stateName (a : Activation) (s : State) : String :=
  (a.state.filter (· ≠ "")).getD s.id

namespace Script

/-- The `inputCaptured` of the activation at `s`. -/
def captureOf (a : Activation) (s : State) : Action :=
  .inputCaptured a.workflow (a.stateName s)

-- ============================================================ the handler

/-- A plan that captures is carried out up to the handler, with the engine of
the plan. -/
theorem carryOut_capture {p : Engine.Plan Hook} {hook : Hook} {a : Activation}
    {state : State} (h : p.course = .capture hook a state) (s : Stage) :
    ∃ entries, carryOut p s = (.ok (.capture hook a state, none),
      { s with engine := p.engine, entries }) := by
  rcases carryOut_concludes p s with hcarry | ⟨-, htemplate, -⟩
  · obtain ⟨engine, entries, course⟩ := p
    dsimp only at h
    subst h
    exact ⟨_, hcarry⟩
  · rw [h] at htemplate
    exact absurd rfl htemplate

/-- The stage on which the handler of an input starts. -/
def Stage.entrusting (s : Stage) (text intent : String) : Stage :=
  (carryOut (s.engine.plan text intent) s.afresh).2

/-- The operations that a handler `runs` on the stage. -/
def Stage.runsOf (s : Stage) : Hook → List Operation
  | .plain _ => []
  | .program slot => (s.programs[slot]?.map Program.runs).getD []

/-- Whether the operation leaves the running workflow where it is: it `isOwn`,
gives no input, announces nothing and is no reset. -/
def Operation.isStill (op : Operation) : Bool :=
  op.isOwn && !op.isTold && !op.isReset

/-- An operation that `isStill` leaves the `place`. -/
theorem run_leaves_place {op : Operation} (hop : op.isStill = true) :
    Leaves Stage.place (run op) := by
  unfold Operation.isStill at hop
  simp only [Bool.and_eq_true, Bool.not_eq_true'] at hop
  obtain ⟨⟨hown, htold⟩, hreset⟩ := hop
  intro s
  refine (run_part Stage.place (fun _ => rfl) op s).trans ?_
  show (perform run op s.afresh).2.place = s.place
  cases hsub : op.isSubscription with
  | true =>
      obtain ⟨m, hm⟩ := perform_subscription run op hsub s.afresh
      rw [hm]
      rfl
  | false =>
      have hnumbers := perform_leaves_numbers hown hsub htold hreset s.afresh
      rw [perform_eq_deaf run hown htold]
      exact Engine.place_eq_of_active (congrArg Prod.fst hnumbers)

/-- A handler all of whose operations are still leaves the `place`. -/
theorem runHook_still (text : String) (a : Activation) {hook : Hook}
    {s : Stage} (h : ∀ op ∈ s.runsOf hook, op.isStill = true) :
    (runHook run text a hook s).2.place = s.place := by
  cases hook with
  | plain handler => exact edit_leaves_place a.serial _ s
  | program slot =>
      simp only [runHook]
      rw [get_bind_apply]
      cases hp : s.programs[slot]? with
      | none => rfl
      | some p =>
          have hruns : s.runsOf (.program slot) = p.runs := by
            show (s.programs[slot]?.map Program.runs).getD [] = p.runs
            rw [hp]
            rfl
          have hspend : Leaves Stage.place (spend slot) := by
            intro t
            obtain ⟨programs, hpaid⟩ := spend_stage slot t
            rw [hpaid]
            rfl
          have hpaid : ∀ op, .operate op ∈ p.instructions →
              Leaves Stage.place (runPaid run slot op) := by
            intro op hop
            have hstill := h op (hruns ▸ List.mem_filterMap.2 ⟨_, hop, rfl⟩)
            refine leaves_bind hspend fun paid => ?_
            cases paid with
            | false => exact fun _ => rfl
            | true =>
                exact leaves_bind (show Leaves Stage.place (attempt (run op))
                  from run_leaves_place hstill) fun _ _ => rfl
          exact leaves_law.runInstructions run run
            (fun change _ => edit_leaves_place a.serial _) hpaid s

-- ============================================================== the input

/-- The reply to an input that a handler took, by the action that `captured`
gives. -/
def replyOf (action : Except Engine.Fault Action) : Except Fault Reply :=
  (action.mapError .engine).map fun action => .outcome (.done action) none

theorem replyOf_eq_done_iff {result : Except Engine.Fault Action}
    {action : Action} :
    replyOf result = .ok (.outcome (.done action) none)
      ↔ result = .ok action := by
  constructor
  · intro h
    cases result with
    | error fault => cases h
    | ok made =>
        injection h with hreply
        injection hreply with houtcome
        rw [Option.some.inj (congrArg Outcome.action houtcome)]
  · rintro rfl
    rfl

/-- What `captured` gives is the `captureOf` an activation just if what is
active has the same names. -/
theorem captured_eq_captureOf_iff (e : Engine Hook) (a : Activation)
    (state : State) :
    e.captured state = .ok (captureOf a state)
      ↔ ∃ b, e.active = some b ∧ b.workflow = a.workflow
        ∧ b.stateName state = a.stateName state := by
  unfold Engine.captured
  constructor
  · intro h
    cases hb : e.active with
    | none =>
        rw [hb] at h
        cases h
    | some b =>
        rw [hb] at h
        injection Except.ok.inj h with hworkflow hname
        exact ⟨b, rfl, hworkflow, hname⟩
  · rintro ⟨b, hb, hworkflow, hname⟩
    rw [hb, captureOf, ← hworkflow, ← hname]
    rfl

/-- An input whose handler returns comes to what `captured` gives then. -/
theorem handle_captured {inner : Operation → Run Reply} {text intent : String}
    {s t u : Stage} {hook : Hook} {a : Activation} {state : State}
    (h : carryOut (s.engine.plan text intent) s
      = (.ok (.capture hook a state, none), t))
    (hreturns : runHook inner text a hook t = (.ok (), u)) :
    (handle inner text intent s).1
      = ((u.engine.captured state).mapError Fault.engine).map
        fun action => (.done action, none) := by
  unfold handle
  rw [get_bind_apply, bind_of_ok h]
  dsimp only
  rw [bind_of_ok hreturns, get_bind_apply]
  cases u.engine.captured state with
  | error fault => rfl
  | ok action =>
      dsimp only
      rw [bind_of_ok (Prod.ext (dispatch_ok inner action none u) rfl)]
      rfl

/-- Editing under one serial leaves the context and the stray of every other
one. -/
theorem edit_frame (change : Draft → Except Fault Draft) {serial n : Nat}
    (hn : n ≠ serial) (s : Stage) :
    (edit serial change s).2.contextOf n = s.contextOf n
      ∧ (edit serial change s).2.strays.lookup n = s.strays.lookup n := by
  unfold edit
  rw [get_bind_apply]
  cases change (s.draft serial) with
  | error fault => exact ⟨rfl, rfl⟩
  | ok d =>
      obtain ⟨hcontext, hstray, -⟩ := write_frame s hn d
      exact ⟨hcontext, hstray⟩

/-- What an input comes to whose handler leaves the stage as `after`. It names
what is active then, or fails if nothing is; so it names what the handler was
chosen for just if that is active still, or again, and always if the handler
runs no operation that could move it. What is running then is what the handler
was chosen for, or started later, and what the handler writes reaches nothing
that started later. -/
structure Reenters (s : Stage) (text intent : String) (hook : Hook)
    (a : Activation) (state : State) (after : Stage) : Prop where
  named : ∀ b, after.engine.active = some b →
    (run (.handle text intent) s).1
      = .ok (.outcome (.done (captureOf b state)) none)
  idle : after.engine.active = none →
    (run (.handle text intent) s).1 = .error (.engine .idleAfterHandler)
  chosen : (run (.handle text intent) s).1
      = .ok (.outcome (.done (captureOf a state)) none)
    ↔ ∃ b, after.engine.active = some b ∧ b.workflow = a.workflow
      ∧ b.stateName state = a.stateName state
  still : (∀ op ∈ (s.entrusting text intent).runsOf hook,
      op.isStill = true) →
    (run (.handle text intent) s).1
      = .ok (.outcome (.done (captureOf a state)) none)
  running : ∀ b, after.engine.active = some b →
    (b.serial = a.serial ∧ b.workflow = a.workflow)
      ∨ (s.entrusting text intent).engine.activations ≤ b.serial
  writes : ∀ change n u, (s.entrusting text intent).engine.activations ≤ n →
    (edit a.serial change u).2.contextOf n = u.contextOf n
      ∧ (edit a.serial change u).2.strays.lookup n = u.strays.lookup n
  unused : ∀ n, after.engine.activations ≤ n →
    after.contextOf n = {} ∧ after.strays.lookup n = none

section Input

variable {s : Stage} {text intent : String} {hook : Hook} {a : Activation}
  {state : State}
  (hcourse : (s.engine.plan text intent).course = .capture hook a state)
include hcourse

/-- The input is carried out up to the handler, which starts on `entrusting`.
-/
theorem carryOut_entrusting :
    carryOut (s.engine.plan text intent) s.afresh
        = (.ok (.capture hook a state, none), s.entrusting text intent)
      ∧ (s.entrusting text intent).engine.active = some a := by
  obtain ⟨entries, hcarry⟩ := carryOut_capture hcourse s.afresh
  unfold Stage.entrusting
  rw [hcarry]
  exact ⟨rfl, Engine.plan_captured hcourse⟩

/-- An input whose handler returns comes to the `replyOf` what `captured` gives
as the handler leaves the engine. -/
theorem run_handle_captured
    (hreturns : (runHook run text a hook (s.entrusting text intent)).1
      = .ok ()) :
    (run (.handle text intent) s).1
      = replyOf ((runHook run text a hook
        (s.entrusting text intent)).2.engine.captured state) := by
  obtain ⟨hcarry, -⟩ := carryOut_entrusting hcourse
  rw [run_handle_result, handle_captured hcarry (Prod.ext hreturns rfl)]
  unfold replyOf
  cases (runHook run text a hook (s.entrusting text intent)).2.engine.captured
    state <;> rfl

/-- On a `Numbered` stage, the handler starts under a serial that has been
given, and is `Onward`. -/
theorem runHook_entrusting (hs : s.Numbered) :
    a.serial < (s.entrusting text intent).engine.activations
      ∧ Onward (s.entrusting text intent)
        (runHook run text a hook (s.entrusting text intent)).2 := by
  have hs' : s.afresh.Numbered := ⟨hs.running, hs.strays, hs.ended⟩
  have hstart : Onward s.afresh (s.entrusting text intent) :=
    carryOut_onward hs' text intent
  obtain ⟨-, hactive⟩ := carryOut_entrusting hcourse
  have hserial := hstart.numbered.running a hactive
  exact ⟨hserial, runHook_onward (fun op s _ hs => run_onward op hs.numbered)
    text a hook hstart.numbered hserial⟩

end Input

/-- A handler that returns may have called the engine again. What the input
comes to follows from the engine as the handler leaves it (`Reenters`). -/
theorem run_handle_reenters {s : Stage} (hs : s.Numbered)
    (text intent : String) {hook : Hook} {a : Activation} {state : State}
    (hcourse : (s.engine.plan text intent).course = .capture hook a state)
    (hreturns : (runHook run text a hook (s.entrusting text intent)).1
      = .ok ()) :
    Reenters s text intent hook a state
      (runHook run text a hook (s.entrusting text intent)).2 := by
  obtain ⟨-, hactive⟩ := carryOut_entrusting hcourse
  obtain ⟨hserial, hafter⟩ := runHook_entrusting hcourse hs
  have hresult := run_handle_captured hcourse hreturns
  have hchosen := captured_eq_captureOf_iff
    (runHook run text a hook (s.entrusting text intent)).2.engine a state
  rw [← replyOf_eq_done_iff, ← hresult] at hchosen
  refine ⟨?_, ?_, hchosen, ?_, ?_, ?_, ?_⟩
  · intro b hb
    rw [hresult, replyOf_eq_done_iff, Engine.captured, hb]
    rfl
  · intro hnone
    rw [hresult, Engine.captured, hnone]
    rfl
  · intro hruns
    have hplace := runHook_still text a hruns
    unfold Stage.place Engine.place at hplace
    rw [hactive] at hplace
    obtain ⟨b, hb, hsame⟩ := Option.map_eq_some_iff.1 hplace
    obtain ⟨hworkflow, hstate⟩ := Prod.mk.inj hsame
    refine hchosen.2 ⟨b, hb, hworkflow, ?_⟩
    rw [Activation.stateName, hstate]
    rfl
  · intro b hb
    rcases hafter.running b hb with ⟨c, hc, hnumber, hworkflow⟩ | hlater
    · rw [hactive] at hc
      cases hc
      exact .inl ⟨hnumber, hworkflow⟩
    · exact .inr hlater
  · intro change n u hn
    exact edit_frame change (Nat.ne_of_gt (Nat.lt_of_lt_of_le hserial hn)) u
  · intro n hn
    exact hafter.numbered.unused hn

/-- A workflow with one state, whose inputs go to a handler. -/
def keeper : Definition where
  id := "keeper"
  trigger := "start"
  initial := "a"
  states := .ofList [("a",
    { id := "a", onEnter := "Here.", handler := some "caller" })]

/-- An activation of `keeper` whose counters are `n`. -/
def keeping (n : Int) : Activation where
  serial := 0
  workflow := "keeper"
  state := some "a"
  context := { turnCount := n, stateTurnCount := n }

/-- A stage where `keeper` is running and its handler has these instructions. A
second workflow waits for its trigger. -/
def calling (instructions : List Instruction) : Stage where
  engine := {
    registry := (({} : Registry).register keeper).register (usher "other" "go")
    handlers := .ofList [("caller", .program 0)]
    active := some (keeping 0)
    activations := 1 }
  programs := [.mk instructions 2]
  disk := { find := fun _ => .ok .device }

/-- A stage whose handler resets the engine and triggers the second workflow.
-/
def calledAway : Stage := calling [.operate .reset, .operate (.handle "" "go")]

/-- The workflow and the state of an `inputCaptured`. -/
def Reply.captured? : Reply → Option (String × String)
  | .outcome { action := some (.inputCaptured workflow state), .. } _ =>
    some (workflow, state)
  | _ => none

/-- The `Engine.Fault` of a result. -/
def engineFault? : Except Fault Reply → Option Engine.Fault
  | .error (.engine fault) => some fault
  | _ => none

/-- The input on `calledAway` names the second workflow. -/
theorem run_handle_reenters_calledAway :
    (run (.handle "text" "") calledAway).1.toOption.bind Reply.captured?
        = some ("other", "a")
      ∧ Reenters calledAway "text" "" (.program 0) (keeping 1)
        { id := "a", onEnter := "Here.", handler := some "caller" }
        (runHook run "text" (keeping 1) (.program 0)
          (calledAway.entrusting "text" "")).2 := by
  refine ⟨by decide +kernel, ?_⟩
  refine run_handle_reenters ⟨?_, List.forall_mem_nil _,
    List.forall_mem_nil _⟩ "text" "" rfl ?_
  · intro a ha
    cases ha
    decide
  · have hreturns : (runHook run "text" (keeping 1) (.program 0)
        (calledAway.entrusting "text" "")).1.toBool = true := by
      decide +kernel
    cases hresult : (runHook run "text" (keeping 1) (.program 0)
        (calledAway.entrusting "text" "")).1 with
    | ok done => rfl
    | error fault =>
        rw [hresult] at hreturns
        cases hreturns

/-- A handler that only resets the engine returns, and the input that it took
fails; one that triggers another workflow after that returns too, and the
input names the other one. -/
theorem handler_unseats :
    let returns (s : Stage) : Bool := (runHook run "text" (keeping 1)
      (.program 0) (s.entrusting "text" "")).1.toBool
    let dropped := calling [.operate .reset]
    (dropped.engine.place = some ("keeper", some "a")
        ∧ returns dropped = true
        ∧ engineFault? (run (.handle "text" "") dropped).1
          = some .idleAfterHandler)
      ∧ calledAway.engine.place = some ("keeper", some "a")
        ∧ returns calledAway = true
        ∧ (run (.handle "text" "") calledAway).1.toOption.bind Reply.captured?
          = some ("other", "a") := by
  decide +kernel

end Script
end Colloquy
