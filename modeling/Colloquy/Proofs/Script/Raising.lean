/-
Handlers that fail. A handler that only writes to its context may break off
halfway. The input fails with it then, nobody hears of anything, and the
engine stays where it was: what is left of the input is one more turn on
both counts, and what the handler wrote before it broke off, which is what
its instructions up to that point write (`run_handle_raises`).

That something failed leaves no trace beside that. Whoever goes on from there
cannot tell the stage from one that came about in any other way, since what
was seen and noted down is read by nobody.

# Writing

A draft that is written is kept as a context, and a stray in its buffer is
kept beside it. `Draft.keep` is what the next instruction finds there.
`Writes` puts such steps together, and the induction over the instructions
carries along that the same activation is running under every context.
-/
import Colloquy.Proofs.Script.Reentry
import Colloquy.Proofs.Script.Unseen

namespace Colloquy.Script

-- ================================================================== drafts

namespace Draft

/-- The draft with one more turn on both counters. -/
def counted (d : Draft) : Draft :=
  { d with
    turnCount := d.turnCount + 1
    stateTurnCount := d.stateTurnCount + 1 }

/-- The rows and the draft that are found once `d` has been written. -/
def keep (d : Draft) (rows : Rows) : Rows × Draft :=
  let (rows, stray) := d.settle rows
  (rows, ofContext rows d.context stray)

end Draft

/-- What instructions write one after another, from the rows and the draft that
they find to those that they leave. -/
inductive Writes (text : String) :
    List Instruction → Rows × Draft → Rows × Draft → Prop
  | nothing {found : Rows × Draft} : Writes text [] found found
  | change {edit : String → Draft → Except Fault Draft}
      {rest : List Instruction} {rows : Rows} {d d' : Draft}
      {left : Rows × Draft} (hedit : edit text d = .ok d')
      (hrest : Writes text rest (d'.keep rows) left) :
      Writes text (.touch edit :: rest) (rows, d) left

/-- The rows, and the draft of the activation with this serial. -/
def Stage.sheet (s : Stage) (serial : Nat) : Rows × Draft :=
  (s.rows, s.draft serial)

/-- Under the serial of the running activation, a draft that is written is
found as `keep` says. -/
theorem write_sheet {s : Stage} {a : Activation}
    (hactive : s.engine.active = some a) (d : Draft) :
    (s.write a.serial d).sheet a.serial = d.keep s.rows := by
  have hwritten : (s.write a.serial d).engine.active
      = some { a with context := d.context } := by
    show (s.engine.active.map fun b =>
      if b.serial = a.serial then { b with context := d.context } else b) = _
    rw [hactive, Option.map_some, if_pos rfl]
  have hcontext : (s.write a.serial d).contextOf a.serial = d.context :=
    contextOf_active hwritten
  have hstray : (s.write a.serial d).strays.lookup a.serial
      = (d.settle s.rows).2 := by
    show (((d.settle s.rows).2.map fun stray => (a.serial, stray)).toList
      ++ s.strays.filter fun entry => entry.1 ≠ a.serial).lookup a.serial = _
    cases (d.settle s.rows).2 with
    | none =>
        refine List.lookup_eq_none_iff.2 fun entry hentry => ?_
        have hother := of_decide_eq_true (List.mem_filter.1 hentry).2
        simpa using Ne.symm hother
    | some stray =>
        show List.lookup a.serial ((a.serial, stray) :: _) = some stray
        rw [List.lookup_cons, beq_self_eq_true]
  unfold Stage.sheet Stage.draft
  rw [hcontext, hstray]
  rfl

-- ================================================================= writing

/-- The stage without the running workflow, without anything that stands in a
context, and without the journal. -/
def Stage.backdrop (s : Stage) : Stage :=
  { s with
    engine := { s.engine with active := none }
    strays := []
    rows := []
    ended := []
    journal := [] }

/-- All that changed from `s` to `t` was written for the running activation
`a`: its context and its stray. -/
structure Writing (a : Activation) (s t : Stage) : Prop where
  running : ∃ context, t.engine = s.engine.running { a with context }
  others : ∀ n, n ≠ a.serial → t.contextOf n = s.contextOf n
    ∧ t.strays.lookup n = s.strays.lookup n
  rest : t.backdrop = s.backdrop

theorem Writing.refl {a : Activation} {s : Stage}
    (hactive : s.engine.active = some a) : Writing a s s := by
  exact ⟨⟨a.context, (Engine.running_eq hactive).symm⟩,
    fun _ _ => ⟨rfl, rfl⟩, rfl⟩

theorem write_writing {a : Activation} {s : Stage}
    (hactive : s.engine.active = some a) (d : Draft) :
    Writing a s (s.write a.serial d) := by
  have hengine := s.engine.writeContext_running a d.context
  rw [Engine.running_eq hactive] at hengine
  refine ⟨⟨d.context, hengine⟩, fun n hn => ?_, ?_⟩
  · obtain ⟨hcontext, hstray, -⟩ := write_frame s hn d
    exact ⟨hcontext, hstray⟩
  · unfold Stage.backdrop
    rw [show (s.write a.serial d).engine = _ from hengine]
    rfl

theorem Writing.trans {a : Activation} {context : Context} {s t u : Stage}
    (h : Writing a s t) (h' : Writing { a with context } t u) :
    Writing a s u := by
  refine ⟨?_, fun n hn => ?_, ?_⟩
  · obtain ⟨before, ht⟩ := h.running
    obtain ⟨after, hu⟩ := h'.running
    exact ⟨after, by rw [hu, ht]; rfl⟩
  · obtain ⟨hcontext, hstray⟩ := h.others n hn
    obtain ⟨hcontext', hstray'⟩ := h'.others n hn
    exact ⟨hcontext'.trans hcontext, hstray'.trans hstray⟩
  · exact h'.rest.trans h.rest

/-- If `touchAll` fails, the instructions before the failing one were written,
and that one found what they left. -/
theorem touchAll_raises {text : String} {fault : Fault} {a : Activation}
    {instructions : List Instruction} {s t : Stage}
    (hkeeps : instructions.all Instruction.isTouch = true)
    (hactive : s.engine.active = some a)
    (hraises : touchAll text a.serial instructions s = (.error fault, t)) :
    Writing a s t ∧ ∃ done edit rest,
      instructions = done ++ .touch edit :: rest
        ∧ Writes text done (s.sheet a.serial) (t.sheet a.serial)
        ∧ edit text (t.draft a.serial) = .error fault := by
  -- Every change that succeeds leaves the same activation running, with
  -- another context; the changes after it start from there.
  induction instructions generalizing s a with
  | nil => cases hraises
  | cons instruction rest ih =>
      rw [List.all_cons, Bool.and_eq_true] at hkeeps
      cases instruction with
      | operate op => exact absurd hkeeps.1 Bool.false_ne_true
      | touch change =>
          cases hchange : change text (s.draft a.serial) with
          | error fault' =>
              have hedit : edit a.serial (change text) s
                  = (.error fault', s) := by
                unfold edit
                rw [get_bind_apply, hchange]
                rfl
              cases (bind_of_error hedit).symm.trans hraises
              exact ⟨.refl hactive, [], change, rest, rfl, .nothing, hchange⟩
          | ok d =>
              have hedit : edit a.serial (change text) s
                  = (.ok (), s.write a.serial d) := by
                unfold edit
                rw [get_bind_apply, hchange]
                rfl
              have hwriting := write_writing hactive d
              obtain ⟨context, hrunning⟩ := hwriting.running
              obtain ⟨hrest, done, edit, more, rfl, hwrites, hfails⟩ :=
                ih (a := { a with context }) hkeeps.2
                  (congrArg Engine.active hrunning)
                  ((bind_of_ok hedit).symm.trans hraises)
              refine ⟨hwriting.trans hrest, .touch change :: done, edit, more,
                rfl, .change hchange ?_, hfails⟩
              rw [← write_sheet hactive d]
              exact hwrites

-- ============================================================ the handler

/-- The instructions of a handler on the stage. One that gathers texts has one.
-/
def Stage.instructionsOf (s : Stage) : Hook → List Instruction
  | .plain handler =>
    [.touch fun text d => (d.gather handler text).mapError .sum]
  | .program slot => (s.programs[slot]?.map Program.instructions).getD []

/-- A handler whose instructions are all a `touch` is run by `touchAll`. -/
theorem runHook_eq_touchAll (inner : Operation → Run Reply) (text : String)
    (a : Activation) {hook : Hook} {s : Stage}
    (hkeeps : (s.instructionsOf hook).all Instruction.isTouch = true) :
    runHook inner text a hook s
      = touchAll text a.serial (s.instructionsOf hook) s := by
  cases hook with
  | plain handler => exact (congrFun (bind_pure _) s).symm
  | program slot =>
      simp only [runHook]
      rw [get_bind_apply]
      have hslot : s.instructionsOf (.program slot)
        = (s.programs[slot]?.map Program.instructions).getD [] := rfl
      rw [hslot] at hkeeps ⊢
      cases hp : s.programs[slot]? with
      | none => rfl
      | some p =>
          rw [hp] at hkeeps
          exact congrFun (runInstructions_eq inner text a.serial slot hkeeps) s

-- =============================================================== the input

section Input

variable {s : Stage} {text intent : String} {hook : Hook} {a : Activation}
  {state : State}
  (hcourse : (s.engine.plan text intent).course = .capture hook a state)
include hcourse

/-- The stage that `entrusting` gives is the one before the input, with the
turn counted. -/
theorem entrusting_eq :
    ∃ b, s.engine.active = some b ∧ a = b.counted
      ∧ s.entrusting text intent
        = { s.afresh with engine := s.engine.running b.counted } := by
  obtain ⟨b, hb, -, ha, hplan⟩ := Engine.plan_capture hcourse
  refine ⟨b, hb, ha, ?_⟩
  unfold Stage.entrusting
  rw [hplan]
  have hentries : s.entries ++ [] ++ [] = s.entries := by
    rw [List.append_nil, List.append_nil]
  rcases carryOut_concludes _ s.afresh with hcarry | ⟨-, htemplate, -⟩
  · rw [hcarry]
    exact congrArg (fun entries => { s.afresh with
      engine := s.engine.running b.counted, entries }) hentries
  · exact absurd rfl htemplate

/-- Up to the handler, nothing but the turn is written. -/
theorem entrusting_writing : Writing a s (s.entrusting text intent) := by
  obtain ⟨b, hb, rfl, heq⟩ := entrusting_eq hcourse
  rw [heq]
  refine ⟨⟨b.counted.context, rfl⟩, fun n hn => ⟨?_, rfl⟩, rfl⟩
  have hactive : Engine.active (s.engine.running b.counted)
      = some b.counted := rfl
  rw [contextOf_other hb hn]
  exact contextOf_other hactive hn

/-- The handler finds the draft that was there before the input, `counted`. -/
theorem entrusting_sheet :
    (s.entrusting text intent).sheet a.serial
      = (s.rows, (s.draft a.serial).counted) := by
  obtain ⟨b, hb, rfl, heq⟩ := entrusting_eq hcourse
  have hactive : (s.entrusting text intent).engine.active
      = some b.counted := by
    rw [heq]
    rfl
  have hbefore : s.contextOf b.counted.serial = b.context :=
    contextOf_active hb
  unfold Stage.sheet Stage.draft
  rw [contextOf_active hactive, hbefore, heq]
  rfl

/-- If `runHook` fails, so does the input, and it leaves what the handler left.
-/
theorem run_handle_of_error {fault : Fault} {t : Stage}
    (h : runHook run text a hook (s.entrusting text intent)
      = (.error fault, t)) :
    (run (.handle text intent) s).1 = .error fault
      ∧ (run (.handle text intent) s).2.afresh = t.afresh := by
  have hcarry := (carryOut_entrusting hcourse).1
  have hhandle : handle run text intent s.afresh = (.error fault, t) := by
    unfold handle
    rw [get_bind_apply, show s.afresh.engine = s.engine from rfl,
      bind_of_ok hcarry]
    exact bind_of_error h
  have hperform : perform run (.handle text intent) s.afresh
      = (.error fault, t) := bind_of_error hhandle
  rw [run_result, run_afresh, hperform]
  exact ⟨rfl, rfl⟩

end Input

/-- What an input comes to whose handler fails with `fault`. The input fails
with it, nothing is heard, and of the engine only the context of the running
workflow is another: it has one more turn on both counters and holds what the
instructions up to the failing one wrote (`Writes`). Operations go on from
there as from any other stage that is like it. -/
structure Stage.Raises (s : Stage) (text intent : String) (hook : Hook)
    (a : Activation) (fault : Fault) (after : Stage) : Prop where
  result : (run (.handle text intent) s).1 = .error fault
  unheard : after.events = s.events
  registry : after.engine.registry = s.engine.registry
  handlers : after.engine.handlers = s.engine.handlers
  workflow : after.engine.workflow? = s.engine.workflow?
  state : after.engine.stateKey? = s.engine.stateKey?
  writing : Writing a s after
  writes : ∃ done edit rest,
    s.instructionsOf hook = done ++ .touch edit :: rest
      ∧ Writes text done (s.rows, (s.draft a.serial).counted)
        (after.sheet a.serial)
      ∧ edit text (after.draft a.serial) = .error fault
  later : ∀ t, t.unseen = after.unseen → ∀ ops,
    (runAll ops after).1 = (runAll ops t).1
      ∧ ∃ seen, (runAll ops after).2.events = after.events ++ seen
        ∧ (runAll ops t).2.events = t.events ++ seen

/-- A handler that only writes to its context and fails leaves the engine where
it was, with the turn counted and with what it wrote before it failed
(`Stage.Raises`). -/
theorem run_handle_raises {s : Stage} {text intent : String} {hook : Hook}
    {a : Activation} {state : State} {fault : Fault}
    (hcourse : (s.engine.plan text intent).course = .capture hook a state)
    (hkeeps : (s.instructionsOf hook).all Instruction.isTouch = true)
    (hraises : (runHook run text a hook (s.entrusting text intent)).1
      = .error fault) :
    s.Raises text intent hook a fault (run (.handle text intent) s).2 := by
  obtain ⟨b, hb, rfl, heq⟩ := entrusting_eq hcourse
  have hactive := (carryOut_entrusting hcourse).2
  have hsame : (s.entrusting text intent).instructionsOf hook
      = s.instructionsOf hook := by
    rw [heq]
    cases hook <;> rfl
  obtain ⟨left, hleft⟩ : ∃ left,
      runHook run text b.counted hook (s.entrusting text intent)
        = (.error fault, left) := ⟨_, Prod.ext hraises rfl⟩
  obtain ⟨hresult, hafter⟩ := run_handle_of_error hcourse hleft
  rw [← hsame] at hkeeps
  rw [runHook_eq_touchAll run text b.counted hkeeps] at hleft
  obtain ⟨hwriting, done, edit, rest, hinstructions, hwrites, hfails⟩ :=
    touchAll_raises hkeeps hactive hleft
  rw [entrusting_sheet hcourse] at hwrites
  rw [hsame] at hinstructions
  -- The run only puts the input into the journal beside that.
  generalize (run (.handle text intent) s).2 = after at hafter ⊢
  obtain ⟨journal, rfl⟩ : ∃ journal, after = { left with journal } := by
    have hjournal := congrArg
      (fun u : Stage => { u with journal := after.journal }) hafter
    exact ⟨after.journal, hjournal⟩
  obtain ⟨hrunning, hothers, hrest⟩ :=
    (entrusting_writing hcourse).trans hwriting
  obtain ⟨context, hengine⟩ := hrunning
  have hplace : left.engine.workflow? = s.engine.workflow?
      ∧ left.engine.stateKey? = s.engine.stateKey? := by
    rw [hengine, Engine.workflow?, Engine.stateKey?, Engine.workflow?,
      Engine.stateKey?, hb]
    exact ⟨rfl, rfl⟩
  have hevents := congrArg Stage.events hrest
  have hregistry := congrArg Engine.registry hengine
  have hhandlers := congrArg Engine.handlers hengine
  exact {
    result := hresult
    unheard := hevents
    registry := hregistry
    handlers := hhandlers
    workflow := hplace.1
    state := hplace.2
    writing := ⟨⟨context, hengine⟩, hothers, hrest⟩
    writes := ⟨done, edit, rest, hinstructions, hwrites, hfails⟩
    later := fun t ht ops =>
      have hlater := runAll_unseeing ops ht.symm
      ⟨hlater.1, hlater.2.2⟩ }

/-- A stage whose handler keeps the text and fails before it is done with it.
-/
def faltering : Stage := calling
  [.touch fun text d => .ok (d.put (.string text)),
    .touch fun _ _ => .error (.raised "no"),
    .touch fun _ d => .ok (d.put (.string "done"))]

/-- On `faltering`, the text of an input that fails is left in the buffer. -/
theorem run_handle_raises_faltering :
    let after := (run (.handle "text" "") faltering).2
    after.engine.active = some { keeping 1 with
        context := { (keeping 1).context with buffer := "text" } }
      ∧ faltering.Raises "text" "" (.program 0) (keeping 1) (.raised "no")
        after := by
  have hcourse : (faltering.engine.plan "text" "").course
      = .capture (.program 0) (keeping 1)
        { id := "a", onEnter := "Here.", handler := some "caller" } := rfl
  exact ⟨rfl, run_handle_raises hcourse rfl rfl⟩

end Colloquy.Script
