/-
Where calls lead, one after another. A call moves the running workflow
before anyone hears of it: an input leads where its plan does, or makes the
engine idle with an exit, a reset makes it idle, and nothing else moves it
at all (`Call.Leads`). What happens afterwards in the course of the call,
in handlers and in listeners, moves it by further calls only. So the calls
of a run, in the order in which they started, are a walk of the running
workflow from standing to standing (`runAll_walks`).

# Handlers

A handler may write to its context and may run operations of the engine, in
any order, and so may listeners. All that is asked of a handler is that it
spares the counts: no change that it makes to a context touches them, and
neither do the handlers that it registers (`Program.Spares`).
-/
import Colloquy.Proofs.Engine.Counts
import Colloquy.Proofs.Script.Handling
import Colloquy.Proofs.Script.Linear
import Colloquy.Proofs.Script.Running

namespace Colloquy.Script

-- ======================================================= sparing handlers

/-- A change of a draft that keeps both counters. -/
def SparesCounts (change : String → Draft → Except Fault Draft) : Prop :=
  ∀ text d d', change text d = .ok d' →
    d'.turnCount = d.turnCount ∧ d'.stateTurnCount = d.stateTurnCount

mutual

/-- The operation `isOwn`, and a program that it brings spares the counters. -/
def Operation.Spares : Operation → Prop
  | .registerHandler _ program => program.Spares
  | operation => operation.isOwn = true

/-- A `touch` that `SparesCounts`, or an operation that spares them. -/
def Instruction.Spares : Instruction → Prop
  | .touch change => SparesCounts change
  | .operate operation => operation.Spares

/-- Every instruction of the program spares the counters. -/
def Program.Spares : Program → Prop
  | .mk instructions _ => AllSpare instructions

/-- Each of the instructions spares the counters. -/
def AllSpare : List Instruction → Prop
  | [] => True
  | instruction :: rest => instruction.Spares ∧ AllSpare rest

end

theorem Operation.Spares.own {op : Operation} (h : op.Spares) :
    op.isOwn = true := by
  cases op with
  | registerHandler name program => rfl
  | _ =>
      simp only [Operation.Spares] at h
      exact h

/-- An operation that `isOwn` and brings no program spares the counters. -/
theorem Operation.Spares.of_own {op : Operation} (hown : op.isOwn = true)
    (hbrings : op.brings = []) : op.Spares := by
  cases op with
  | registerHandler name program => cases hbrings
  | _ =>
      simp only [Operation.Spares]
      exact hown

theorem Operation.Spares.brings {op : Operation} (h : op.Spares) :
    ∀ p ∈ op.brings, p.Spares := by
  cases op with
  | registerHandler name program =>
      simp only [Operation.Spares] at h
      intro p hp
      rw [List.mem_singleton.1 hp]
      exact h
  | _ => exact nofun

theorem AllSpare.of_mem {instructions : List Instruction}
    (h : AllSpare instructions) : ∀ i ∈ instructions, i.Spares := by
  induction instructions with
  | nil => exact nofun
  | cons instruction rest ih =>
      simp only [AllSpare] at h
      exact List.forall_mem_cons.2 ⟨h.1, ih h.2⟩

theorem Program.Spares.instructions {p : Program} (h : p.Spares) :
    AllSpare p.instructions := by
  obtain ⟨instructions, limit⟩ := p
  simp only [Program.Spares] at h
  exact h

theorem Program.Spares.touches {p : Program} (h : p.Spares)
    (change : String → Draft → Except Fault Draft)
    (hchange : .touch change ∈ p.instructions) : SparesCounts change := by
  have hspares := h.instructions.of_mem _ hchange
  simp only [Instruction.Spares] at hspares
  exact hspares

theorem Program.Spares.operates {p : Program} (h : p.Spares)
    (op : Operation) (hop : .operate op ∈ p.instructions) : op.Spares := by
  have hspares := h.instructions.of_mem _ hop
  simp only [Instruction.Spares] at hspares
  exact hspares

theorem Program.Spares.spend {p : Program} (h : p.Spares) :
    p.spend.Spares := by
  obtain ⟨instructions, limit⟩ := p
  simp only [Program.Spares] at h
  simp only [Program.spend, Program.Spares]
  exact h

/-- Every program on the stage, and every operation that a listener runs,
spares the counters. -/
structure Stage.Spares (s : Stage) : Prop where
  programs : ∀ p ∈ s.programs, p.Spares
  reacts : s.Reacts Operation.Spares

-- ================================================================== walks

/-- The standing to which a call leads the running workflow, before anyone
hears of it. -/
inductive Call.Leads (call : Call) : Option Standing → Prop
  | moves {text intent : String} (hop : call.operation = .handle text intent)
      (hresult : ∀ workflow message context stray, call.result
        ≠ .ok (.outcome (.done (.exitWorkflow workflow message context))
          stray)) :
      Leads call (call.found.plan text intent).engine.standing
  | ends {text intent template : String} {a : Activation}
      {stray : Option Stray} (hop : call.operation = .handle text intent)
      (hcourse : (call.found.plan text intent).course = .leave a template)
      (hresult : call.result = .ok (.outcome (.done (.exitWorkflow a.workflow
        (Template.render template a.context) a.context)) stray)) :
      Leads call none
  | resets (hop : call.operation = .reset) : Leads call none
  | stays (hop : ∀ text intent, call.operation ≠ .handle text intent) :
      Leads call call.found.standing

/-- The running workflow goes from standing to standing along the calls: each
found it where the one before had led it. -/
inductive Walks : Option Standing → List Call → Option Standing → Prop
  | done {p : Option Standing} : Walks p [] p
  | step {p q r : Option Standing} {call : Call} {calls : List Call}
      (hfound : call.found.standing = p) (hleads : call.Leads q)
      (rest : Walks q calls r) : Walks p (call :: calls) r

theorem Walks.append {p q r : Option Standing} {calls more : List Call}
    (h : Walks p calls q) (h' : Walks q more r) :
    Walks p (calls ++ more) r := by
  induction h with
  | done => exact h'
  | step hfound hleads _ ih => exact .step hfound hleads (ih h')

/-- From `s` to `t`, the running workflow `Walks` along the calls that the
journal adds. -/
structure Walked (s t : Stage) : Prop where
  spares : t.Spares
  journal : ∃ calls, t.journal = s.journal ++ calls
    ∧ Walks s.engine.standing (startedAll calls) t.engine.standing

/-- Between stages with the same journal and the same `standing`, nothing
moved. -/
theorem Walked.of_standing {s t : Stage} (ht : t.Spares)
    (hjournal : t.journal = s.journal)
    (hstanding : t.engine.standing = s.engine.standing) : Walked s t := by
  refine ⟨ht, [], by rw [hjournal, List.append_nil], ?_⟩
  rw [hstanding]
  exact .done

theorem Walked.trans {s t u : Stage} (h : Walked s t) (h' : Walked t u) :
    Walked s u := by
  obtain ⟨calls, hcalls, hwalks⟩ := h.journal
  obtain ⟨more, hmore, hwalks'⟩ := h'.journal
  refine ⟨h'.spares, calls ++ more, ?_, ?_⟩
  · rw [hmore, hcalls, List.append_assoc]
  · rw [startedAll_append]
    exact hwalks.append hwalks'

theorem walked_refl {s : Stage} (hs : s.Spares) : Walked s s :=
  .of_standing hs rfl rfl

/-- If listeners run operations that spare the counters, reactions carry
`Walked`. -/
theorem walked_carries : Carries Walked Operation.Spares where
  trans h h' := h.trans h'
  good h := walked_refl h.spares
  reacts h := h.spares.reacts
  aside h hreacts halone hjournal := by
    refine .of_standing ⟨?_, hreacts⟩ hjournal ?_
    · rw [← Stage.programs_eq_of_alone halone]
      exact h.spares.programs
    · rw [Stage.engine_eq_of_alone halone]

/-- A run that is `Backstage` keeps a stage sparing. -/
theorem Backstage.spares {α : Type} {new : List Program} {m : Run α}
    (hm : Backstage new m) (hnew : ∀ p ∈ new, p.Spares) {s : Stage}
    (hs : s.Spares) : (m s).2.Spares := by
  refine ⟨hm.all hnew hs.programs, ?_⟩
  unfold Stage.Reacts
  rw [show (m s).2.listeners = s.listeners from
    congrArg Audience.listeners (hm.frame s)]
  exact hs.reacts

-- =============================================================== handlers

/-- Writing a draft with the counters of the activation keeps the `standing`.
-/
theorem write_standing {s : Stage} {serial : Nat} {d : Draft}
    (hturns : d.turnCount = (s.draft serial).turnCount)
    (hstate : d.stateTurnCount = (s.draft serial).stateTurnCount) :
    (s.write serial d).engine.standing = s.engine.standing := by
  show (s.engine.writeContext serial d.context).standing = _
  unfold Engine.standing Engine.writeContext
  cases hactive : s.engine.active with
  | none => rfl
  | some a =>
      by_cases hserial : a.serial = serial
      · have hcontext : s.contextOf serial = a.context := by
          rw [← hserial]
          exact contextOf_active hactive
        have hturns : d.turnCount = a.context.turnCount := by
          rw [hturns, ← hcontext]
          rfl
        have hstate : d.stateTurnCount = a.context.stateTurnCount := by
          rw [hstate, ← hcontext]
          rfl
        simp only [Option.map_some, if_pos hserial, Activation.standing,
          Draft.context, hturns, hstate]
      · simp only [Option.map_some, if_neg hserial]

/-- An edit that `SparesCounts` is `Walked`, with no step. -/
theorem edit_walked (serial : Nat)
    {change : String → Draft → Except Fault Draft}
    (hchange : SparesCounts change) (text : String) {s : Stage}
    (hs : s.Spares) : Walked s (edit serial (change text) s).2 := by
  have hback := edit_backstage serial (change text)
  refine .of_standing (hback.spares nofun hs)
    (congrArg Audience.journal (hback.frame s)) ?_
  unfold edit
  rw [get_bind_apply]
  cases hd : change text (s.draft serial) with
  | error fault => rfl
  | ok d =>
      obtain ⟨hturns, hstate⟩ := hchange text _ d hd
      exact write_standing hturns hstate

/-- What `gather` adds spares the counters. -/
theorem gather_spares (handler : Handler) :
    SparesCounts fun text d => (d.gather handler text).mapError .sum := by
  intro text d d' h
  dsimp only at h
  cases hgather : d.gather handler text with
  | error fault =>
      rw [hgather] at h
      cases h
  | ok gathered =>
      rw [hgather] at h
      cases h
      unfold Draft.gather Draft.append at hgather
      cases hsum : sum d.buffer
          (.string (handler.addition d.buffer.saysNothing text)) with
      | error fault =>
          rw [hsum] at hgather
          cases hgather
      | ok v =>
          rw [hsum] at hgather
          cases hgather
          exact ⟨rfl, rfl⟩

/-- The same for `spend`. -/
theorem spend_walked (slot : Nat) {s : Stage} (hs : s.Spares) :
    Walked s (spend slot s).2 := by
  unfold spend
  rw [get_bind_apply]
  cases hp : s.programs[slot]? with
  | none => exact walked_refl hs
  | some p =>
      dsimp only
      by_cases hlimit : p.limit = 0
      · rw [if_pos hlimit]
        exact walked_refl hs
      · rw [if_neg hlimit]
        refine .of_standing ⟨?_, hs.reacts⟩ rfl rfl
        intro p' hp'
        rcases List.mem_or_eq_of_mem_set hp' with hp' | rfl
        · exact hs.programs p' hp'
        · exact (hs.programs p (List.mem_of_getElem? hp)).spend

section Within

variable {inner : Operation → Run Reply}
  (hinner : ∀ op s, op.Spares → Walked s s → Walked s (inner op s).2)
include hinner

/-- With inner runs that are `Walked`, so is `runHook`. -/
theorem runHook_walked (text : String) (a : Activation) (hook : Hook)
    {s : Stage} (hs : s.Spares) :
    Walked s (runHook inner text a hook s).2 := by
  cases hook with
  | plain handler => exact edit_walked a.serial (gather_spares handler) text hs
  | program slot =>
      simp only [runHook]
      rw [get_bind_apply]
      cases hp : s.programs[slot]? with
      | none => exact walked_refl hs
      | some p =>
          have hspares := hs.programs p (List.mem_of_getElem? hp)
          exact runInstructions_carries walked_carries hinner
            (fun t ht => spend_walked slot ht.spares)
            (fun change h t ht =>
              edit_walked a.serial (hspares.touches change h) text ht.spares)
            hspares.operates (walked_refl hs)

-- ============================================================= operations

/-- An input is a call that leads somewhere, and what runs within it is
`Walked`. -/
theorem handle_walks (text intent : String) {s : Stage} (hs : s.Spares) :
    ∃ t : Stage, t.journal = s.journal
      ∧ (∀ calls, (Call.mk (.handle text intent) s.engine
          (perform inner (.handle text intent) s).1 calls).Leads
            t.engine.standing)
      ∧ Walked t (perform inner (.handle text intent) s).2 := by
  have hback := carryOut_backstage (s.engine.plan text intent)
  have hspares := hback.spares (by simp) hs
  have hjournal := congrArg Audience.journal (hback.frame s)
  simp only [perform, handle, bind_assoc]
  rw [get_bind_apply]
  rcases carryOut_cases (s.engine.plan text intent) s
    with ⟨-, -, fault, t, hcarry, ht⟩ | ⟨stray, t, hcarry, ht⟩
  · rw [hcarry] at hspares hjournal
    rw [bind_of_error hcarry]
    refine ⟨t, hjournal, fun calls => ?_, walked_refl hspares⟩
    rw [ht]
    exact .moves rfl (by rintro _ _ _ _ ⟨⟩)
  · rw [hcarry] at hspares hjournal
    rw [bind_of_ok hcarry]
    refine ⟨t, hjournal, ?_⟩
    rw [ht]
    have hleads : ∀ {result : Except Fault Reply},
        (∀ workflow message context stray, result ≠ .ok (.outcome
          (.done (.exitWorkflow workflow message context)) stray)) →
        ∀ calls, (Call.mk (.handle text intent) s.engine result calls).Leads
          (s.engine.plan text intent).engine.standing :=
      fun h _ => .moves rfl h
    have hends : ∀ {a : Activation} {template : String} (calls : List Call),
        (s.engine.plan text intent).course = .leave a template →
        (Call.mk (.handle text intent) s.engine (.ok (.outcome
          (.done (.exitWorkflow a.workflow (Template.render template a.context)
            a.context)) stray)) calls).Leads none :=
      fun _ h => .ends rfl h rfl
    generalize s.engine.plan text intent = p at hleads hends
    obtain ⟨engine, entries, course⟩ := p
    -- whoever hears of what came of the input, the running workflow walks on
    have htold : ∀ (outcome : Outcome) (stray : Option Stray) (u : Stage),
        u.Spares → ∃ v, outcome.action.toList.forM
            (fun action => dispatch inner action stray) u = (.ok (), v)
          ∧ Walked u v := by
      intro outcome stray u hu
      obtain ⟨hok, hgoes⟩ := forM_carries walked_carries (fun action _ =>
        dispatch_carries walked_carries hinner action stray)
        outcome.action.toList u (walked_refl hu)
      exact ⟨_, Prod.ext hok rfl, hgoes⟩
    cases course with
    | ignored => exact ⟨hleads (by rintro _ _ _ _ ⟨⟩), walked_refl hspares⟩
    | failed fault =>
      exact ⟨hleads (by rintro _ _ _ _ ⟨⟩), walked_refl hspares⟩
    | arrive a workflow key template =>
        obtain ⟨u, htell, hgoes⟩ := htold (.done (.enterState workflow key
          (Template.render template a.context))) stray t hspares
        dsimp only [Engine.Plan.carryOut]
        rw [bind_assoc, bind_of_ok htell]
        exact ⟨hleads (by rintro _ _ _ _ ⟨⟩), hgoes⟩
    | leave a template =>
        obtain ⟨u, htell, hgoes⟩ := htold (.done (.exitWorkflow a.workflow
          (Template.render template a.context) a.context)) stray t hspares
        dsimp only [Engine.Plan.carryOut]
        rw [bind_assoc, bind_of_ok htell]
        exact ⟨fun calls => hends calls rfl, hgoes⟩
    | capture hook a state =>
        have hhook := runHook_walked hinner text a hook hspares
        dsimp only [Engine.Plan.carryOut]
        rw [bind_assoc]
        rcases hrun : runHook inner text a hook t with ⟨fault | done, u⟩
        · rw [hrun] at hhook
          rw [bind_of_error hrun]
          exact ⟨hleads (by rintro _ _ _ _ ⟨⟩), hhook⟩
        · rw [hrun] at hhook
          rw [bind_of_ok hrun, bind_assoc, get_bind_apply]
          unfold Engine.captured
          cases u.engine.active with
          | none => exact ⟨hleads (by rintro _ _ _ _ ⟨⟩), hhook⟩
          | some b =>
              obtain ⟨hok, hgoes⟩ := dispatch_carries walked_carries hinner
                (.inputCaptured b.workflow ((b.state.filter (· ≠ "")).getD
                  state.id)) none (walked_refl hhook.spares)
              dsimp only
              rw [bind_assoc, bind_of_ok (Prod.ext hok rfl)]
              exact ⟨hleads (by rintro _ _ _ _ ⟨⟩), hhook.trans hgoes⟩

/-- An announcement leads nowhere, and what runs within it is `Walked`. -/
theorem announce_walks (message : String) {s : Stage} (hs : s.Spares) :
    ∃ t : Stage, t.journal = s.journal
      ∧ (∀ calls, (Call.mk (.announce message) s.engine
          (perform inner (.announce message) s).1 calls).Leads
            t.engine.standing)
      ∧ Walked t (perform inner (.announce message) s).2 := by
  refine ⟨s, rfl, fun calls => .stays nofun, ?_⟩
  simp only [perform]
  rcases demand_cases (some message) s with hdemand | ⟨-, -, fault, hdemand⟩
  · rw [bind_of_ok hdemand, get_bind_apply]
    obtain ⟨hok, hgoes⟩ := dispatch_carries walked_carries hinner
      (s.engine.announce message) none (walked_refl hs)
    rw [bind_of_ok (Prod.ext hok rfl)]
    exact hgoes
  · rw [bind_of_error hdemand]
    exact walked_refl hs

omit hinner in
/-- An operation that is not told of makes the engine idle, or leads nowhere;
and nothing runs within it. -/
theorem quiet_walks {op : Operation} (hop : op.Spares)
    (htold : op.isTold = false) {s : Stage} (hs : s.Spares) :
    (perform inner op s).2.journal = s.journal
      ∧ (∀ calls, (Call.mk op s.engine (perform inner op s).1 calls).Leads
          (perform inner op s).2.engine.standing)
      ∧ (perform inner op s).2.Spares := by
  have hhandle : ∀ calls text intent, (Call.mk op s.engine
      (perform inner op s).1 calls).operation ≠ .handle text intent := by
    rintro calls text intent rfl
    cases htold
  have hstays : ∀ calls, (Call.mk op s.engine
      (perform inner op s).1 calls).Leads s.engine.standing :=
    fun calls => .stays (hhandle calls)
  cases hsub : op.isSubscription with
  | true =>
      obtain ⟨emitter, hperform⟩ := perform_subscription inner op hsub s
      rw [hperform]
      exact ⟨rfl, hstays, hs.programs, hs.reacts⟩
  | false =>
      have hdeaf := perform_eq_deaf inner hop.own htold
      have hback := perform_backstage hop.own hsub htold
      have hjournal := congrArg Audience.journal (hback.frame s)
      have hspares := hback.spares hop.brings hs
      rw [hdeaf] at hstays ⊢
      refine ⟨hjournal, ?_, hspares⟩
      cases hreset : op.isReset with
      | true =>
          cases op with
          | reset => exact fun calls => .resets rfl
          | _ => cases hreset
      | false =>
          have hrunning :=
            (perform_aside hop.own hsub htold hreset).running s
          have hactive := congrArg Prod.fst hrunning
          have hsame : (perform deaf op s).2.engine.standing
              = s.engine.standing :=
            congrArg (Option.map Activation.standing) hactive
          rw [hsame]
          exact hstays

/-- Every operation that spares the counters leads somewhere, and what runs
within it is `Walked`. -/
theorem perform_walks {op : Operation} (hop : op.Spares) {s : Stage}
    (hs : s.Spares) :
    ∃ t : Stage, t.journal = s.journal
      ∧ (∀ calls, (Call.mk op s.engine (perform inner op s).1 calls).Leads
          t.engine.standing)
      ∧ Walked t (perform inner op s).2 := by
  cases htold : op.isTold with
  | true =>
      cases op with
      | handle text intent => exact handle_walks hinner text intent hs
      | announce message => exact announce_walks hinner message hs
      | _ => cases htold
  | false =>
      obtain ⟨hjournal, hleads, hspares⟩ := quiet_walks hop htold hs
      exact ⟨_, hjournal, hleads, walked_refl hspares⟩

/-- What `journalled` adds is one call, and the workflow `Walks` along it and
those within it. -/
theorem journalled_walks {op : Operation} (hop : op.Spares) {s : Stage}
    (hs : s.Spares) :
    ∃ call : Call, call.operation = op
      ∧ call.result = (journalled (perform inner) op s).1
      ∧ (journalled (perform inner) op s).2.journal = s.journal ++ [call]
      ∧ Walks s.engine.standing call.started
        (journalled (perform inner) op s).2.engine.standing
      ∧ (journalled (perform inner) op s).2.Spares := by
  let blank : Stage := { s with journal := [] }
  have hblank : blank.Spares := ⟨hs.programs, hs.reacts⟩
  obtain ⟨t, hjournal, hleads, hwalked⟩ := perform_walks hinner hop hblank
  obtain ⟨calls, hcalls, hwalks⟩ := hwalked.journal
  have hcourse : (perform inner op blank).2.journal = calls := by
    rw [hcalls, hjournal]
    rfl
  let call : Call := .mk op s.engine (perform inner op blank).1 calls
  refine ⟨call, rfl, rfl, ?_, ?_, hwalked.spares.programs,
    hwalked.spares.reacts⟩
  · show s.journal ++ [Call.mk op s.engine (perform inner op blank).1
      (perform inner op blank).2.journal] = _
    rw [hcourse]
  · rw [Call.started]
    exact .step rfl (hleads calls) hwalks

end Within

-- =================================================================== runs

/-- At every depth, an operation run `within` is `Walked`. -/
theorem within_walked (depth : Nat) :
    ∀ (op : Operation) (s : Stage), op.Spares → Walked s s →
      Walked s (within depth op s).2 := by
  induction depth with
  | zero => exact fun _ _ _ hs => hs
  | succ depth ih =>
      intro op s hop hs
      show Walked s (runWithin depth op s).2
      rw [runWithin_eq]
      obtain ⟨call, -, -, hjournal, hwalks, hspares⟩ :=
        journalled_walks ih hop hs.spares
      refine ⟨hspares, [call], hjournal, ?_⟩
      rw [startedAll, startedAll, List.append_nil]
      exact hwalks

/-- The running workflow `Walks` along the calls of a run, in the order in
which they started: whatever handlers run and whoever listens, as long as the
handlers spare the counters. -/
theorem runAll_walks (ops : List Operation) {s : Stage}
    (hops : ∀ op ∈ ops, op.Spares) (hs : s.Spares) :
    ∃ calls, (runAll ops s).2.journal = s.journal ++ calls
      ∧ calls.map Call.operation = ops
      ∧ calls.map Call.result = (runAll ops s).1
      ∧ Walks s.engine.standing (startedAll calls)
        (runAll ops s).2.engine.standing := by
  induction ops generalizing s with
  | nil => exact ⟨[], (List.append_nil _).symm, rfl, rfl, .done⟩
  | cons op rest ih =>
      obtain ⟨call, hoperation, hresult, hjournal, hwalks, hspares⟩ :
          ∃ call : Call, call.operation = op ∧ call.result = (run op s).1
            ∧ (run op s).2.journal = s.journal ++ [call]
            ∧ Walks s.engine.standing call.started
              (run op s).2.engine.standing
            ∧ (run op s).2.Spares := by
        unfold run
        rw [runWithin_eq]
        exact journalled_walks (within_walked _)
          (hops op (List.mem_cons_self ..)) hs
      obtain ⟨calls, hcalls, hoperations, hresults, hrest⟩ :=
        ih (fun op' h => hops op' (List.mem_cons_of_mem _ h)) hspares
      refine ⟨call :: calls, ?_, ?_, ?_, ?_⟩
      · show (runAll rest (run op s).2).2.journal = _
        rw [hcalls, hjournal, List.append_assoc]
        rfl
      · rw [List.map_cons, hoperation, hoperations]
      · rw [List.map_cons, hresult, hresults]
        rfl
      · rw [startedAll]
        exact hwalks.append hrest

end Colloquy.Script
