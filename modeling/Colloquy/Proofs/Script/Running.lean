/-
What operations do to the workflow that is running. Where the engine stands
is its place: the workflow that is running and the state that is active.
Loads, registrations and queries leave the running workflow alone, a reset
drops it, and an input moves it as its plan says (`settle_handle`). A
handler comes near the place and never changes it, since it writes to the
context.

# What an input comes to

`Handled s p` is everything that an input with plan `p` can come to at
stage `s`. It breaks off, and then nobody hears of it; or it is settled by
the plan, which also says what the listeners hear; or a handler took it,
and they hear that. An input breaks off only where a handler would run, a
rule is broken, or a stray stands in a buffer.
-/
import Colloquy.Proofs.Engine.Course
import Colloquy.Proofs.Script.Settling

namespace Colloquy

namespace Script

/-- The `place` of the engine. -/
def Stage.place (s : Stage) : Option (String × Option String) :=
  s.engine.place

/-- Under the serial of the running activation, `contextOf` finds its context.
-/
theorem contextOf_active {s : Stage} {a : Activation}
    (hactive : s.engine.active = some a) :
    s.contextOf a.serial = a.context := by
  unfold Stage.contextOf
  rw [hactive, Option.filter_some, if_pos (decide_eq_true rfl)]

/-- Under any other serial, `contextOf` finds a context that has ended. -/
theorem contextOf_other {s : Stage} {a : Activation}
    (hactive : s.engine.active = some a) {n : Nat} (hn : n ≠ a.serial) :
    s.contextOf n = (s.ended.lookup n).getD {} := by
  have hother : ¬ decide (a.serial = n) = true := by
    simpa using Ne.symm hn
  unfold Stage.contextOf
  rw [hactive, Option.filter_some, if_neg hother]

-- ============================================================ handlers

theorem edit_leaves_place (serial : Nat)
    (change : Draft → Except Fault Draft) :
    Leaves Stage.place (edit serial change) := by
  refine leaves_get fun s => ?_
  cases change (s.draft serial) with
  | error fault => exact fun _ => rfl
  | ok draft => exact fun t => t.engine.writeContext_place serial draft.context

/-- A handler that keeps to its context leaves the `place`. -/
theorem touch_leaves_place (text : String) (a : Activation) (hook : Hook) :
    Leaves Stage.place (touch text a hook) :=
  leaves_law.touch edit_leaves_place text a hook

-- =============================================================== inputs

/-- What an input with plan `p` can come to at stage `s`: its reply and the
news for listeners, and the engine as it is then. -/
inductive Handled (s : Stage) (p : Engine.Plan Hook) :
    Except Fault (Reply × List News) → Engine Hook → Prop
  | brokenOff {fault : Fault} {e : Engine Hook}
      (hplace : e.place = p.engine.place)
      (hcause : s.strays ≠ [] ∨ p.course.template? = none) :
      Handled s p (.error fault) e
  | settled {outcome : Outcome} {stray : Option Stray} {e : Engine Hook}
      (hstep : p.carryOut.step = .settled outcome)
      (hplace : e.place = p.carryOut.engine.place) :
      Handled s p (.ok (.outcome outcome stray,
        outcome.action.toList.map (·, stray))) e
  | captured {hook : Hook} {a : Activation} {state : State}
      {workflow key : String} {e : Engine Hook}
      (hcourse : p.course = .capture hook a state)
      (hplace : e.place = p.engine.place)
      (hworkflow : e.workflow? = some workflow) :
      Handled s p (.ok (.outcome (.done (.inputCaptured workflow key)) none,
        [(.inputCaptured workflow key, none)])) e

/-- After an input the engine is at the `place` of its plan, or idle. -/
theorem Handled.place {s : Stage} {p : Engine.Plan Hook}
    {result : Except Fault (Reply × List News)} {e : Engine Hook}
    (h : Handled s p result e) :
    e.place = p.engine.place ∨ e.active = none := by
  cases h with
  | brokenOff hplace _ => exact .inl hplace
  | captured _ hplace _ => exact .inl hplace
  | settled _ hplace =>
      rcases p.carryOut_place with hcarry | hcarry
      · exact .inl (hplace.trans hcarry)
      · refine .inr (Engine.active_of_place_eq_none ?_)
        rw [hplace, Engine.place, hcarry]
        rfl

/-- What `demand` does: nothing, or it fails because there is a stray. -/
theorem demand_cases (template : Option String) (s : Stage) :
    demand template s = (.ok (), s)
      ∨ s.strays ≠ [] ∧ template ≠ none
        ∧ ∃ fault, demand template s = (.error fault, s) := by
  unfold demand
  rw [get_bind_apply]
  cases hstray : s.stray? with
  | none => exact .inl rfl
  | some stray =>
      cases template with
      | none => exact .inl rfl
      | some template =>
          have hstrays : s.strays ≠ [] := by
            intro hnone
            obtain ⟨a, -, ha⟩ := Option.bind_eq_some_iff.1 hstray
            rw [hnone] at ha
            cases ha
          dsimp only
          cases obstacle? stray s.engine.context template with
          | none => exact .inl rfl
          | some obstacle => exact .inr ⟨hstrays, nofun, _, rfl⟩

/-- The stage with the engine of a plan, and its entries noted down. -/
def Stage.planned (s : Stage) (p : Engine.Plan Hook) : Stage :=
  { s with engine := p.engine, entries := s.entries ++ p.entries }

/-- What `carryOut` does once the message can be made. -/
def conclude (p : Engine.Plan Hook) :
    Run (Engine.Step Hook × Option Stray) := do
  let stray ← rememberEnding p.course
  let t := ({ p with entries := [] } : Engine.Plan Hook).carryOut
  setEngine t.engine
  note t.entries
  return (t.step, stray)

theorem carryOut_eq (p : Engine.Plan Hook) (s : Stage) :
    carryOut p s
      = (demand p.course.template? >>= fun _ => conclude p) (s.planned p) :=
  rfl

/-- A plan is carried out by `conclude`, unless its message cannot be made. -/
theorem carryOut_concludes (p : Engine.Plan Hook) (s : Stage) :
    carryOut p s = conclude p (s.planned p)
      ∨ s.strays ≠ [] ∧ p.course.template? ≠ none
        ∧ ∃ fault, carryOut p s = (.error fault, s.planned p) := by
  rw [carryOut_eq]
  rcases demand_cases p.course.template? (s.planned p)
    with hdemand | ⟨hstrays, htemplate, fault, hdemand⟩
  · exact .inl (bind_of_ok hdemand)
  · exact .inr ⟨hstrays, htemplate, fault, bind_of_error hdemand⟩

/-- The same, by what `conclude` comes to. -/
theorem carryOut_cases (p : Engine.Plan Hook) (s : Stage) :
    (s.strays ≠ [] ∧ p.course.template? ≠ none
        ∧ ∃ fault t, carryOut p s = (.error fault, t)
          ∧ t.engine = p.engine)
      ∨ ∃ stray t, carryOut p s = (.ok (p.carryOut.step, stray), t)
        ∧ t.engine = p.carryOut.engine := by
  rcases carryOut_concludes p s
    with hcarry | ⟨hstrays, htemplate, fault, hcarry⟩
  · right
    rw [hcarry]
    obtain ⟨engine, entries, course⟩ := p
    cases course with
    | _ => exact ⟨_, _, rfl, rfl⟩
  · exact .inl ⟨hstrays, htemplate, fault, _, hcarry, rfl⟩

/-- If the running workflow has no stray, `demand` does nothing. -/
theorem demand_clear {s : Stage} (hs : s.stray? = none)
    (template : Option String) : demand template s = (.ok (), s) := by
  unfold demand
  rw [get_bind_apply, hs]
  rfl

/-- A plan whose workflow has no stray is carried out. -/
theorem carryOut_clear {p : Engine.Plan Hook} {s : Stage}
    (hs : ({ s with engine := p.engine } : Stage).stray? = none) :
    ∃ t, carryOut p s = (.ok (p.carryOut.step, none), t)
      ∧ t.engine = p.carryOut.engine := by
  have hstray : (s.planned p).stray? = none := hs
  rw [carryOut_eq, bind_of_ok (demand_clear hstray _)]
  obtain ⟨engine, entries, course⟩ := p
  cases course with
  | leave a template =>
      rw [← hstray]
      exact ⟨_, rfl, rfl⟩
  | _ => exact ⟨_, rfl, rfl⟩

/-- If no buffer holds a stray, the running workflow has none. -/
theorem Stage.stray?_of_strays {s : Stage} (h : s.strays = []) :
    s.stray? = none := by
  unfold Stage.stray?
  rw [h]
  cases s.engine.active <;> rfl

/-- What an input settles is `Handled` by its plan. -/
theorem settle_handle (text intent : String) (s : Stage) :
    Handled s (s.engine.plan text intent)
      (settle (.handle text intent) s).1
      (settle (.handle text intent) s).2.engine := by
  simp only [settle]
  rw [get_bind_apply]
  generalize s.engine.plan text intent = p
  rcases carryOut_cases p s
    with ⟨hstrays, -, fault, t, hcarry, ht⟩ | ⟨stray, t, hcarry, ht⟩
  · rw [bind_of_error hcarry]
    exact .brokenOff (congrArg Engine.place ht) (.inl hstrays)
  · rw [bind_of_ok hcarry]
    have hplace := congrArg Engine.place ht
    obtain ⟨engine, entries, course⟩ := p
    cases course with
    | ignored => exact .settled rfl hplace
    | failed fault => exact .brokenOff hplace (.inr rfl)
    | leave a template => exact .settled rfl hplace
    | arrive a workflow key template => exact .settled rfl hplace
    | capture hook a state =>
        have htouched := (touch_leaves_place text a hook t).trans hplace
        dsimp only [Engine.Plan.carryOut]
        rcases htouch : touch text a hook t with ⟨fault | done, u⟩
        · rw [htouch] at htouched
          rw [bind_of_error htouch]
          exact .brokenOff htouched (.inr rfl)
        · rw [htouch] at htouched
          rw [bind_of_ok htouch, get_bind_apply]
          unfold Engine.captured
          cases hactive : u.engine.active with
          | none => exact .brokenOff htouched (.inr rfl)
          | some b =>
              have hworkflow : u.engine.workflow? = some b.workflow :=
                congrArg (Option.map Activation.workflow) hactive
              exact .captured rfl htouched hworkflow

-- ====================================================== other operations

/-- An announcement changes nothing. -/
theorem settle_announce (message : String) (s : Stage) :
    (settle (.announce message) s).2 = s := by
  simp only [settle]
  rcases demand_cases (some message) s with h | ⟨-, -, fault, h⟩
  · rw [bind_of_ok h]
    rfl
  · rw [bind_of_error h]

/-- For an operation that is not told of, `settle` is `perform` with no news.
-/
theorem settle_quiet {op : Operation} (htold : op.isTold = false)
    (s : Stage) :
    settle op s
      = ((perform deaf op s).1.map (·, []), (perform deaf op s).2) := by
  have h : settle op = (do return (← perform deaf op, [])) := by
    cases op with
    | handle text intent => cases htold
    | announce message => cases htold
    | _ => rfl
  rw [h, bind_apply]
  rcases perform deaf op s with ⟨fault | reply, t⟩ <;> rfl

/-- An operation that is not told of has no news. -/
theorem newsOf_quiet {op : Operation} (htold : op.isTold = false)
    (s : Stage) : newsOf op s = [] := by
  rw [newsOf, settle_quiet htold]
  cases (perform deaf op s).1 <;> rfl

/-- What an operation that is not told of settles brings no stray, and leaves
the running activation alone unless it is a reset. -/
theorem settle_running {op : Operation} (hop : op.isOwn = true)
    (hsub : op.isSubscription = false) (htold : op.isTold = false)
    (s : Stage) :
    (settle op s).2.strays = s.strays
      ∧ (settle op s).2.engine.active
        = if op.isReset then none else s.engine.active := by
  rw [settle_quiet htold]
  cases hreset : op.isReset with
  | false =>
      have hrunning := (perform_aside hop hsub htold hreset).running s
      exact ⟨congrArg Prod.snd hrunning, congrArg Prod.fst hrunning⟩
  | true =>
      cases op with
      | reset => exact ⟨rfl, rfl⟩
      | _ => cases hreset

end Script
end Colloquy
