/-
Sound definitions in runs. Once a definition that the check finds nothing
wrong with is registered, and as long as nothing else takes its place, no
run of an engine has a mishap with it: whatever other workflows do in
between, whoever listens and answers with operations of their own, and
whatever the handlers put into the context.

The invariant is that the definition, when it is running, is at one of its
own states (`Engine.Placed`). Inputs keep it because the definition is
sound (`Engine.plan_placed`), and every other operation because it leaves
the running workflow alone or drops it. It holds wherever a call starts,
nested ones included, since a run is a line of settlings.
-/
import Colloquy.Proofs.Engine.Sound
import Colloquy.Proofs.Script.Linear
import Colloquy.Proofs.Script.Running

namespace Colloquy.Script

variable {d : Definition}

-- ============================================================= one step

/-- What a direct operation settles keeps a `Sound` definition `Placed`. -/
theorem settle_placed (hd : d.Sound) {op : Operation}
    (hop : op.isDirect = true) (hsub : op.isSubscription = false)
    {s : Stage} (hregistered : s.engine.registry.get? d.id = some d)
    (hplaced : s.engine.Placed d) : (settle op s).2.engine.Placed d := by
  cases htold : op.isTold with
  | false =>
      have hown := Operation.isOwn_of_isDirect hop
      obtain ⟨-, hactive⟩ := settle_running hown hsub htold s
      cases hreset : op.isReset with
      | true =>
          rw [hreset] at hactive
          exact Engine.placed_of_idle hactive
      | false =>
          rw [hreset] at hactive
          exact hplaced.congr (Engine.place_eq_of_active hactive)
  | true =>
      cases op with
      | announce message =>
          rw [settle_announce]
          exact hplaced
      | handle text intent =>
          have hplan := Engine.plan_placed hd hregistered hplaced text intent
          rcases (settle_handle text intent s).place with hplace | hidle
          · exact hplan.congr hplace
          · exact Engine.placed_of_idle hidle
      | _ => cases htold

-- ============================================================= all steps

/-- A `Sound` definition is `Placed` wherever a call starts. -/
theorem Follows.placed (hd : d.Sound) {s t : Stage} {calls : List Call}
    (h : Follows s calls t)
    (hregistered : ∀ call ∈ calls,
      call.found.registry.get? d.id = some d)
    (hplaced : s.engine.Placed d) : ∀ call ∈ calls, call.found.Placed d := by
  induction h with
  | done h => exact nofun
  | @subscription s t call calls hsub hfound rest ih =>
      intro call' hcall'
      rcases List.mem_cons.1 hcall' with rfl | hcall'
      · rw [hfound]
        exact hplaced
      · exact ih (fun c hc => hregistered c (List.mem_cons_of_mem _ hc))
          hplaced call' hcall'
  | @operation s t call calls hop hsub hfound hresult rest ih =>
      have hhere : s.engine.registry.get? d.id = some d := by
        rw [← hfound]
        exact hregistered call (List.mem_cons_self ..)
      intro call' hcall'
      rcases List.mem_cons.1 hcall' with rfl | hcall'
      · rw [hfound]
        exact hplaced
      · exact ih (fun c hc => hregistered c (List.mem_cons_of_mem _ hc))
          (settle_placed hd hop hsub hhere hplaced) call' hcall'

-- =============================================================== answers

/-- What an input for a sound definition may be answered with: the end of the
workflow for a `reason`, or a state that it has; with a message made from a
template that is `Clear`. -/
structure Answers (d : Definition) (reason : Prop)
    (result : Except Fault Reply) : Prop where
  exits : ∀ {workflow message context stray},
    result = .ok (.outcome
      (.done (.exitWorkflow workflow message context)) stray) →
    reason ∧ workflow = d.id
      ∧ ∃ template, Template.Clear template
        ∧ message = Template.render template context
  enters : ∀ {workflow key message stray},
    result = .ok (.outcome (.done (.enterState workflow key message)) stray) →
    workflow = d.id ∧ (∃ s, d.states.get? key = some s)
      ∧ ∃ template context, Template.Clear template
        ∧ message = Template.render template context

/-- An input that `IsFor` a `Sound` definition settles on one of its `Answers`.
-/
theorem settle_answers (hd : d.Sound) {s : Stage}
    (hregistered : s.engine.registry.get? d.id = some d)
    (hplaced : s.engine.Placed d) {intent : String}
    (hfor : s.engine.IsFor d intent) (text : String) :
    Answers d (s.engine.Ends d text intent)
      ((settle (.handle text intent) s).1.map Prod.fst) := by
  have hsound :=
    Engine.plan_sound_of_isFor hd hregistered hplaced hfor text
  obtain ⟨e', a, hgoes, hworkflow⟩ := hfor.continues text
  obtain ⟨b, hab, hrunning⟩ := hgoes.engine
  have hhandled := settle_handle text intent s
  generalize (settle (.handle text intent) s).1 = result at hhandled ⊢
  generalize s.engine.plan text intent = p at hsound hgoes hrunning hhandled
  cases hhandled with
  | brokenOff _ _ => exact ⟨nofun, nofun⟩
  | captured _ _ _ => exact ⟨nofun, nofun⟩
  | settled hstep _ =>
      constructor
      · rintro workflow message context stray hresult
        cases hresult
        obtain ⟨c, template, hcourse, rfl, rfl, hmessage⟩ :=
          Engine.Plan.course_of_exit hstep
        have hc := hgoes.course c (by rw [hcourse]; rfl)
        rw [hrunning] at hc
        cases hc
        refine ⟨hsound.leaves b template hcourse,
          hab.workflow.trans hworkflow, template, ?_, hmessage⟩
        exact hsound.clear template (by rw [hcourse]; rfl)
      · rintro workflow key message stray hresult
        cases hresult
        obtain ⟨c, template, hcourse, hmessage⟩ :=
          Engine.Plan.course_of_enter hstep
        have hc := hgoes.course c (by rw [hcourse]; rfl)
        obtain ⟨hown, hstate⟩ := hgoes.arrives c workflow key template hcourse
        have hworkflow' : c.workflow = d.id := by
          rw [hrunning] at hc
          cases hc
          exact hab.workflow.trans hworkflow
        obtain ⟨s', hs'⟩ := hsound.placed c hc hworkflow'
        rw [hstate] at hs'
        refine ⟨hown.trans hworkflow, ⟨s', hs'⟩, template, c.context, ?_,
          hmessage⟩
        exact hsound.clear template (by rw [hcourse]; rfl)

-- ================================================================= runs

/-- The check of definitions is sound. In a run of direct operations, whoever
listens, a definition whose `problems` are none and that stays registered has
no mishap: no input for it takes either of the ways out that are meant for
broken definitions, or breaks a rule; it ends only for a reason; and its
messages are made from templates whose variables are known. -/
theorem runAll_sound (d : Definition) (hproblems : d.problems = [])
    (ops : List Operation) (s : Stage)
    (hops : ∀ op ∈ ops, op.isDirect = true) (hs : s.Direct)
    (hidle : s.engine.workflow? ≠ some d.id) :
    ∃ calls, (runAll ops s).2.journal = s.journal ++ calls
      ∧ calls.map Call.operation = ops
      ∧ calls.map Call.result = (runAll ops s).1
      ∧ ((∀ call ∈ startedAll calls,
          call.found.registry.get? d.id = some d) →
        ∀ call ∈ startedAll calls, ∀ text intent,
          call.operation = .handle text intent →
          call.found.IsFor d intent →
          (call.found.plan text intent).Sound d
              (call.found.Ends d text intent)
            ∧ Answers d (call.found.Ends d text intent) call.result) := by
  have hd := Definition.sound_of_problems_eq_nil hproblems
  obtain ⟨calls, hjournal, hoperations, hresults, hfollows, -⟩ :=
    runAll_follows ops hops hs
  refine ⟨calls, hjournal, hoperations, hresults, ?_⟩
  intro hregistered call hcall text intent hoperation hfor
  have hstart : s.engine.Placed d := by
    intro a ha hworkflow
    refine absurd ?_ hidle
    rw [Engine.workflow?, ha, ← hworkflow]
    rfl
  have hplaced := hfollows.placed hd hregistered hstart call hcall
  have hhere := hregistered call hcall
  refine ⟨Engine.plan_sound_of_isFor hd hhere hplaced hfor text, ?_⟩
  obtain ⟨u, hfound, hresult⟩ :=
    hfollows.settled hcall (by rw [hoperation]; rfl)
  rw [hfound] at hhere hplaced hfor ⊢
  rw [hresult, hoperation]
  exact settle_answers hd hhere hplaced hfor text

/-- On `eager`, where a listener starts it again and again, every input for
`transcribe` has a sound plan and one of the `Answers`. -/
theorem runAll_sound_eager :
    let ops : List Operation := [.handle "" "transcribe", .handle "" "deny"]
    ∀ call ∈ startedAll (runAll ops eager).2.journal, ∀ text intent,
      call.operation = .handle text intent →
      call.found.IsFor Builtins.transcribe intent →
      (call.found.plan text intent).Sound Builtins.transcribe
          (call.found.Ends Builtins.transcribe text intent)
        ∧ Answers Builtins.transcribe
          (call.found.Ends Builtins.transcribe text intent) call.result := by
  intro ops
  have hproblems : Builtins.transcribe.problems = [] := by decide +kernel
  have hops : ∀ op ∈ ops, op.isDirect = true := by decide +kernel
  have heager : eager.Direct := ⟨nofun, by decide +kernel⟩
  have hregistered : ∀ call ∈ startedAll (runAll ops eager).2.journal,
      call.found.registry.get? Builtins.transcribe.id
        = some Builtins.transcribe := by decide +kernel
  obtain ⟨calls, hjournal, -, -, hsound⟩ :=
    runAll_sound Builtins.transcribe hproblems ops eager hops heager nofun
  rw [hjournal] at hregistered ⊢
  exact hsound hregistered

end Colloquy.Script
