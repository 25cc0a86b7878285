/-
Re-entrant listeners linearise. Listeners may answer an action with
operations, those with more operations, and so on; what runs within what
is a tree, and the journal of a stage holds it. The tree does not matter:
the engine, and what every operation came to, are those of the operations
run one after another in the order in which they started, with nobody
listening.

# Why the order of the starts

An operation settles everything before it tells anyone
(`perform_eq_settle`), so whatever runs within it runs after it. Laying
out the tree with every operation in front of what ran within it
(`Call.started`) therefore lays out the run. `Follows s calls t` says
that the settlings of some calls, one after another, lead from `s` to `t`;
it looks at the part of a stage that is backstage and at nothing else.

The induction is on the depth to which operations nest. Its step goes
along the telling (`tell_extends`): listeners one after another, each with
its reactions one after another. Who listens when, who raises where and
whose budget is used up decides which operations start, and nothing else.
-/
import Colloquy.Proofs.Script.Budget
import Colloquy.Proofs.Script.Telling

namespace Colloquy.Script

-- ======================================================= the call tree

mutual

/-- The call itself, and then every call within it, in the order of their
starts. -/
def Call.started : Call → List Call
  | .mk operation found result inner =>
    .mk operation found result inner :: startedAll inner

/-- The calls with every call within them, in the order of their starts. -/
def startedAll : List Call → List Call
  | [] => []
  | call :: rest => call.started ++ startedAll rest

end

theorem startedAll_append (calls more : List Call) :
    startedAll (calls ++ more) = startedAll calls ++ startedAll more := by
  induction calls with
  | nil => rfl
  | cons call rest ih =>
      rw [List.cons_append, startedAll, startedAll, ih, List.append_assoc]

-- ==================================================== direct operations

/-- Whether the reaction runs no operation, or one that `isDirect`. -/
def Reaction.isDirect : Reaction → Bool
  | .operate operation | .insist operation _ => operation.isDirect
  | .fail _ => true

/-- The reactions of every listener are direct, and every program
`keepsToContext`. -/
structure Stage.Direct (s : Stage) : Prop where
  keeps : s.KeepsToContexts
  listeners : ∀ l ∈ s.listeners.values, ∀ r ∈ l.reactions,
    r.isDirect = true

/-- Whether programs keep to their contexts depends on the stage `alone`. -/
theorem Stage.KeepsToContexts.congr {s t : Stage} (hs : s.KeepsToContexts)
    (h : s.alone = t.alone) : t.KeepsToContexts := by
  unfold Stage.KeepsToContexts
  rw [← Stage.programs_eq_of_alone h]
  exact hs

-- ===================================================== lines of settlings

/-- The calls, settled one after another, lead from `s` to `t`: each call found
the engine as the calls before it left it, and came to what it settles. A
subscription changes nothing `alone`. -/
inductive Follows : Stage → List Call → Stage → Prop
  | done {s t : Stage} (h : s.alone = t.alone) : Follows s [] t
  | subscription {s t : Stage} {call : Call} {calls : List Call}
      (hsub : call.operation.isSubscription = true)
      (hfound : call.found = s.engine) (rest : Follows s calls t) :
      Follows s (call :: calls) t
  | operation {s t : Stage} {call : Call} {calls : List Call}
      (hop : call.operation.isDirect = true)
      (hsub : call.operation.isSubscription = false)
      (hfound : call.found = s.engine)
      (hresult : call.result = (settle call.operation s).1.map Prod.fst)
      (rest : Follows (settle call.operation s).2 calls t) :
      Follows s (call :: calls) t

/-- The first stage of `Follows` matters `alone` only. -/
theorem Follows.congr_left {s s' t : Stage} {calls : List Call}
    (h : Follows s calls t) (hs : s.alone = s'.alone) :
    Follows s' calls t := by
  induction h generalizing s' with
  | done h => exact .done (hs.symm.trans h)
  | subscription hsub hfound _ ih =>
      exact .subscription hsub
        (hfound.trans (Stage.engine_eq_of_alone hs)) (ih hs)
  | operation hop hsub hfound hresult _ ih =>
      obtain ⟨hfst, hsnd⟩ := (settle_backstage hop hsub).congr hs
      refine .operation hop hsub
        (hfound.trans (Stage.engine_eq_of_alone hs)) ?_ (ih hsnd)
      rw [hresult, hfst]

/-- The last stage of `Follows` matters `alone` only. -/
theorem Follows.congr_right {s t t' : Stage} {calls : List Call}
    (h : Follows s calls t) (ht : t.alone = t'.alone) :
    Follows s calls t' := by
  induction h with
  | done h => exact .done (h.trans ht)
  | subscription hsub hfound _ ih => exact .subscription hsub hfound (ih ht)
  | operation hop hsub hfound hresult _ ih =>
      exact .operation hop hsub hfound hresult (ih ht)

/-- Two lines of calls compose. -/
theorem Follows.append {s t u : Stage} {calls more : List Call}
    (h : Follows s calls t) (h' : Follows t more u) :
    Follows s (calls ++ more) u := by
  induction h with
  | done h => exact h'.congr_left h.symm
  | subscription hsub hfound _ ih => exact .subscription hsub hfound (ih h')
  | operation hop hsub hfound hresult _ ih =>
      exact .operation hop hsub hfound hresult (ih h')

/-- Every call that `Follows` has came to what it settles at some stage. -/
theorem Follows.settled {s t : Stage} {calls : List Call}
    (h : Follows s calls t) {call : Call} (hmem : call ∈ calls)
    (hsub : call.operation.isSubscription = false) :
    ∃ u : Stage, call.found = u.engine
      ∧ call.result = (settle call.operation u).1.map Prod.fst := by
  induction h with
  | done h => cases hmem
  | subscription hsub' _ _ ih =>
      rcases List.mem_cons.1 hmem with rfl | hmem
      · exact absurd (hsub'.symm.trans hsub) Bool.noConfusion
      · exact ih hmem
  | @operation s t first calls _ _ hfound hresult _ ih =>
      rcases List.mem_cons.1 hmem with rfl | hmem
      · exact ⟨s, hfound, hresult⟩
      · exact ih hmem

/-- From `s` to `t`, the calls that the journal adds follow one another in the
order in which they started. -/
structure Extends (s t : Stage) : Prop where
  direct : t.Direct
  journal : ∃ calls, t.journal = s.journal ++ calls
    ∧ Follows s (startedAll calls) t

/-- Between stages that are equal `alone` and have the same journal, nothing
started. -/
theorem Extends.of_alone {s t : Stage} (ht : t.Direct)
    (h : s.alone = t.alone) (hj : t.journal = s.journal) : Extends s t :=
  ⟨ht, [], by rw [hj, List.append_nil], .done h⟩

theorem Extends.trans {s t u : Stage} (h : Extends s t)
    (h' : Extends t u) : Extends s u := by
  obtain ⟨calls, hcalls, hfollows⟩ := h.journal
  obtain ⟨more, hmore, hfollows'⟩ := h'.journal
  refine ⟨h'.direct, calls ++ more, ?_, ?_⟩
  · rw [hmore, hcalls, List.append_assoc]
  · rw [startedAll_append]
    exact hfollows.append hfollows'

-- =========================================================== the telling

theorem Reaction.isDirect_iff {r : Reaction} :
    r.isDirect = true ↔ ∀ op ∈ r.runs, op.isDirect = true := by
  cases r with
  | fail message => simp [Reaction.isDirect, Reaction.runs]
  | operate operation => simp [Reaction.isDirect, Reaction.runs]
  | insist operation wording => simp [Reaction.isDirect, Reaction.runs]

/-- If listeners run operations that are direct, reactions carry `Extends`. -/
theorem extends_carries :
    Carries Extends fun op => op.isDirect = true where
  trans h h' := h.trans h'
  good h := .of_alone h.direct rfl rfl
  reacts h l hl r hr :=
    Reaction.isDirect_iff.1 (h.direct.listeners l hl r hr)
  aside h hreacts halone hjournal := by
    refine .of_alone ⟨h.direct.keeps.congr halone, ?_⟩ halone hjournal
    intro l hl r hr
    exact Reaction.isDirect_iff.2 (hreacts l hl r hr)

/-- With inner runs that extend the stage, so does `tell`. -/
theorem tell_extends {inner : Operation → Run Reply}
    (hinner : ∀ op s, op.isDirect = true → s.Direct →
      Extends s (inner op s).2)
    (news : List News) {s : Stage} (hs : s.Direct) :
    (tell inner news s).1 = .ok () ∧ Extends s (tell inner news s).2 :=
  tell_carries extends_carries (fun op s hop h => hinner op s hop h.direct)
    news (.of_alone hs rfl rfl)

-- ======================================================== the operations

/-- A direct operation comes to what it settles, and everything that starts
within it extends the stage that it settles. -/
theorem perform_follows {inner : Operation → Run Reply}
    (hinner : ∀ op s, op.isDirect = true → s.Direct →
      Extends s (inner op s).2)
    {op : Operation} {s : Stage} (hop : op.isDirect = true)
    (hsub : op.isSubscription = false) (hs : s.Direct) :
    (perform inner op s).1 = (settle op s).1.map Prod.fst
      ∧ Extends (settle op s).2 (perform inner op s).2 := by
  have hback := settle_backstage hop hsub
  have hsettled : (settle op s).2.Direct := by
    refine ⟨hback.keeps (Operation.brings_keeps hop) hs.keeps, ?_⟩
    rw [show (settle op s).2.listeners = s.listeners from
      congrArg Audience.listeners (hback.frame s)]
    exact hs.listeners
  obtain ⟨hresult, htell⟩ := perform_settles inner hop hs.keeps
    fun news => (tell_extends hinner news hsettled).1
  have hext := (tell_extends hinner (newsOf op s) hsettled).2
  rw [htell] at hext
  exact ⟨hresult, hext⟩

/-- A subscription is a call with no call within it. -/
theorem subscription_follows (inner : Operation → Run Reply)
    {op : Operation} {s : Stage} (hsub : op.isSubscription = true)
    (hs : s.Direct) (hjournal : s.journal = []) :
    Follows s
        (Call.mk op s.engine (perform inner op s).1
          (perform inner op s).2.journal).started (perform inner op s).2
      ∧ (perform inner op s).2.Direct := by
  obtain ⟨m, hm⟩ := perform_subscription inner op hsub s
  rw [hm]
  refine ⟨?_, hs.keeps, hs.listeners⟩
  show Follows s (Call.started (.mk _ _ _ s.journal)) _
  rw [Call.started, hjournal]
  exact .subscription hsub rfl (.done rfl)

/-- Any other direct operation is a call that settles, and then come the calls
within it. -/
theorem operation_follows {inner : Operation → Run Reply}
    (hinner : ∀ op s, op.isDirect = true → s.Direct →
      Extends s (inner op s).2)
    {op : Operation} {s : Stage} (hop : op.isDirect = true)
    (hsub : op.isSubscription = false) (hs : s.Direct)
    (hjournal : s.journal = []) :
    Follows s
        (Call.mk op s.engine (perform inner op s).1
          (perform inner op s).2.journal).started (perform inner op s).2
      ∧ (perform inner op s).2.Direct := by
  obtain ⟨hresult, hext⟩ := perform_follows hinner hop hsub hs
  obtain ⟨calls, hcalls, hfollows⟩ := hext.journal
  have hsettled : (settle op s).2.journal = [] :=
    (congrArg Audience.journal ((settle_backstage hop hsub).frame s)).trans
      hjournal
  rw [hsettled, List.nil_append] at hcalls
  refine ⟨?_, hext.direct⟩
  rw [Call.started, hcalls]
  exact .operation hop hsub rfl hresult hfollows

/-- What `journalled` adds is one call, which `Follows` with those within it.
-/
theorem journalled_follows {inner : Operation → Run Reply}
    (hinner : ∀ op s, op.isDirect = true → s.Direct →
      Extends s (inner op s).2)
    {op : Operation} {s : Stage} (hop : op.isDirect = true)
    (hs : s.Direct) :
    ∃ call : Call, call.operation = op
      ∧ call.result = (journalled (perform inner) op s).1
      ∧ (journalled (perform inner) op s).2.journal = s.journal ++ [call]
      ∧ Follows s call.started (journalled (perform inner) op s).2
      ∧ (journalled (perform inner) op s).2.Direct := by
  let blank : Stage := { s with journal := [] }
  have hblank : blank.Direct := ⟨hs.keeps, hs.listeners⟩
  let r := perform inner op blank
  have h : Follows blank (Call.mk op s.engine r.1 r.2.journal).started r.2
      ∧ r.2.Direct := by
    cases hsub : op.isSubscription with
    | true => exact subscription_follows inner hsub hblank rfl
    | false => exact operation_follows hinner hop hsub hblank rfl
  obtain ⟨hfollows, hdirect⟩ := h
  have hstart : Follows s _ r.2 := hfollows.congr_left rfl
  exact ⟨.mk op s.engine r.1 r.2.journal, rfl, rfl, rfl,
    hstart.congr_right rfl, hdirect.keeps, hdirect.listeners⟩

/-- At every depth, a direct operation run `within` extends the stage. -/
theorem within_extends (depth : Nat) :
    ∀ (op : Operation) (s : Stage), op.isDirect = true → s.Direct →
      Extends s (within depth op s).2 := by
  induction depth with
  | zero => exact fun _ s _ hs => .of_alone hs rfl rfl
  | succ depth ih =>
      intro op s hop hs
      show Extends s (runWithin depth op s).2
      rw [runWithin_eq]
      obtain ⟨call, -, -, hjournal, hfollows, hdirect⟩ :=
        journalled_follows ih hop hs
      refine ⟨hdirect, [call], hjournal, ?_⟩
      rw [startedAll, startedAll, List.append_nil]
      exact hfollows

/-- A direct operation is one call in the journal, and its `started` calls
follow one another. -/
theorem run_follows {op : Operation} {s : Stage} (hop : op.isDirect = true)
    (hs : s.Direct) :
    ∃ call : Call, call.operation = op ∧ call.result = (run op s).1
      ∧ (run op s).2.journal = s.journal ++ [call]
      ∧ Follows s call.started (run op s).2 ∧ (run op s).2.Direct := by
  unfold run
  rw [runWithin_eq]
  exact journalled_follows (within_extends _) hop hs

-- ====================================================== runs, laid out

/-- Direct operations are one call each in the journal, and all calls that
started follow one another. -/
theorem runAll_follows (ops : List Operation) {s : Stage}
    (hops : ∀ op ∈ ops, op.isDirect = true) (hs : s.Direct) :
    ∃ calls, (runAll ops s).2.journal = s.journal ++ calls
      ∧ calls.map Call.operation = ops
      ∧ calls.map Call.result = (runAll ops s).1
      ∧ Follows s (startedAll calls) (runAll ops s).2
      ∧ (runAll ops s).2.Direct := by
  induction ops generalizing s with
  | nil => exact ⟨[], (List.append_nil _).symm, rfl, rfl, .done rfl, hs⟩
  | cons op rest ih =>
      obtain ⟨call, hoperation, hresult, hjournal, hfollows, hdirect⟩ :=
        run_follows (hops op (List.mem_cons_self ..)) hs
      obtain ⟨calls, hcalls, hoperations, hresults, hrest, hdirect'⟩ :=
        ih (fun op' h => hops op' (List.mem_cons_of_mem _ h)) hdirect
      refine ⟨call :: calls, ?_, ?_, ?_, ?_, hdirect'⟩
      · show (runAll rest (run op s).2).2.journal = _
        rw [hcalls, hjournal, List.append_assoc]
        rfl
      · rw [List.map_cons, hoperation, hoperations]
      · rw [List.map_cons, hresult, hresults]
        rfl
      · rw [startedAll]
        exact hfollows.append hrest

/-- With no subscriptions, `tell` does nothing. -/
theorem tell_deaf (inner : Operation → Run Reply) (news : List News)
    {s : Stage} (h : s.emitter = {}) : tell inner news s = (.ok (), s) := by
  induction news with
  | nil => rfl
  | cons first rest ih =>
      have hnone : dispatch inner first.1 first.2 s = (.ok (), s) := by
        unfold dispatch
        rw [get_bind_apply, h]
        rfl
      show ((dispatch inner first.1 first.2
        >>= fun _ => tell inner rest) : Run Unit) s = _
      rw [bind_of_ok hnone, ih]

/-- With no subscriptions, `run` is `settle`. -/
theorem run_deaf {op : Operation} {s : Stage} (hop : op.isDirect = true)
    (hsub : op.isSubscription = false) (hs : s.KeepsToContexts)
    (h : s.emitter = {}) :
    (run op s).1 = (settle op s).1.map Prod.fst
      ∧ (run op s).2.alone = (settle op s).2.alone
      ∧ (run op s).2.emitter = {} := by
  let blank : Stage := { s with journal := [] }
  have hback := settle_backstage hop hsub
  obtain ⟨hfst, hsnd⟩ := hback.congr (show blank.alone = s.alone from rfl)
  have hdeaf : (settle op blank).2.emitter = {} :=
    (congrArg Audience.emitter (hback.frame blank)).trans h
  obtain ⟨hresult, htell⟩ :=
    perform_settles run hop (show blank.KeepsToContexts from hs)
      fun news => congrArg Prod.fst (tell_deaf run news hdeaf)
  have hstage : (perform run op blank).2 = (settle op blank).2 :=
    congrArg Prod.snd (htell.symm.trans (tell_deaf run _ hdeaf))
  rw [run_eq]
  show (perform run op blank).1 = _
    ∧ (perform run op blank).2.alone = _
    ∧ (perform run op blank).2.emitter = {}
  rw [hresult, hstage, hfst]
  exact ⟨rfl, hsnd, hdeaf⟩

/-- What a direct operation comes to is what it comes to from `s.alone`. -/
theorem run_result_alone {op : Operation} {s : Stage}
    (hop : op.isDirect = true) (hsub : op.isSubscription = false)
    (hs : s.Direct) : (run op s).1 = (run op s.alone).1 := by
  obtain ⟨call, hoperation, hresult, -, hfollows, -⟩ := run_follows hop hs
  have halone := (settle_backstage hop hsub).congr s.alone_alone
  have hdeaf := (run_deaf hop hsub (s := s.alone) hs.keeps rfl).1
  rw [← hresult, hdeaf, halone.1]
  obtain ⟨operation, found, result, inner⟩ := call
  cases hoperation
  cases hfollows with
  | subscription hsub' _ _ =>
      exact absurd (hsub'.symm.trans hsub) Bool.noConfusion
  | operation _ _ _ h _ => exact h

/-- Calls that follow one another, run by `runAll` with no subscriptions, come
to the same and lead to the same. -/
theorem Follows.runAll_deaf {s t : Stage} {calls : List Call}
    (h : Follows s calls t) (hs : s.KeepsToContexts) {u : Stage}
    (hu : u.alone = s.alone) (hdeaf : u.emitter = {}) :
    (runAll ((calls.filter (!·.operation.isSubscription)).map
        Call.operation) u).1
      = (calls.filter (!·.operation.isSubscription)).map Call.result
    ∧ (runAll ((calls.filter (!·.operation.isSubscription)).map
        Call.operation) u).2.alone = t.alone := by
  induction h generalizing u with
  | done h => exact ⟨rfl, hu.trans h⟩
  | subscription hsub _ _ ih =>
      rw [List.filter_cons_of_neg (by simp [hsub])]
      exact ih hs hu hdeaf
  | @operation s t call calls hop hsub _ hresult _ ih =>
      rw [List.filter_cons_of_pos (by simp [hsub])]
      have hback := settle_backstage hop hsub
      obtain ⟨hfst, hsnd⟩ := hback.congr hu
      obtain ⟨hrun, halone, hemitter⟩ :=
        run_deaf hop hsub (hs.congr hu.symm) hdeaf
      obtain ⟨hresults, hstage⟩ :=
        ih (hback.keeps (Operation.brings_keeps hop) hs)
          (halone.trans hsnd) hemitter
      refine ⟨?_, hstage⟩
      rw [List.map_cons, List.map_cons, hresult, ← hfst, ← hrun, ← hresults]
      rfl

/-- Re-entrant listeners linearise. Whatever listeners do in answer to
actions, however deep their operations nest and wherever they raise, a run
of direct operations comes to what the operations that started come to,
run one after another in the order of their starts with nobody listening;
subscriptions are left out. That holds of the result of every operation,
and of everything backstage: the registry, the handlers and the running
workflow. In particular an operation comes to the same whether anyone
hears of it or not. -/
theorem runAll_linearises (ops : List Operation) (s : Stage)
    (hops : ∀ op ∈ ops, op.isDirect = true) (hs : s.Direct) :
    (∃ calls, (runAll ops s).2.journal = s.journal ++ calls
      ∧ calls.map Call.operation = ops
      ∧ calls.map Call.result = (runAll ops s).1
      ∧ let started :=
          (startedAll calls).filter (!·.operation.isSubscription)
        (runAll (started.map Call.operation) s.alone).1
            = started.map Call.result
          ∧ (runAll (started.map Call.operation) s.alone).2.alone
            = (runAll ops s).2.alone)
    ∧ ∀ before op after, ops = before ++ op :: after →
        op.isSubscription = false →
        (run op (runAll before s).2).1
          = (run op (runAll before s).2.alone).1 := by
  constructor
  · obtain ⟨calls, hjournal, hoperations, hresults, hfollows, -⟩ :=
      runAll_follows ops hops hs
    exact ⟨calls, hjournal, hoperations, hresults,
      hfollows.runAll_deaf hs.keeps rfl rfl⟩
  · rintro before op after rfl hsub
    obtain ⟨-, -, -, -, -, hdirect⟩ :=
      runAll_follows before
        (fun op' h => hops op' (List.mem_append_left _ h)) hs
    have hop := hops op (List.mem_append_right _ (List.mem_cons_self ..))
    exact run_result_alone hop hsub hdirect

/-- A stage whose listener starts the workflow again as soon as it has
ended, and then raises. -/
def eager : Stage where
  engine := { registry := ({} : Registry).register Builtins.transcribe }
  emitter := ({} : Emitter).subscribe .exitWorkflow "eager"
  listeners := .ofList [("eager",
    { reactions := [.operate (.handle "" "transcribe"), .fail "enough"] })]
  disk := { find := fun _ => .ok .device }

/-- Two inputs on `eager` are three in a row with nobody listening. -/
theorem runAll_linearises_eager :
    let ops : List Operation := [.handle "" "transcribe", .handle "" "deny"]
    ∃ calls, (runAll ops eager).2.journal = calls
      ∧ (startedAll calls).length = 3
      ∧ let started :=
          (startedAll calls).filter (!·.operation.isSubscription)
        (runAll (started.map Call.operation) eager.alone).1
            = started.map Call.result
          ∧ (runAll (started.map Call.operation) eager.alone).2.alone
            = (runAll ops eager).2.alone := by
  intro ops
  have hops : ∀ op ∈ ops, op.isDirect = true := by decide +kernel
  have heager : eager.Direct := ⟨nofun, by decide +kernel⟩
  obtain ⟨⟨calls, hjournal, -, -, hstarted⟩, -⟩ :=
    runAll_linearises ops eager hops heager
  refine ⟨calls, hjournal, ?_, hstarted⟩
  have hlength : (startedAll (runAll ops eager).2.journal).length = 3 := by
    decide +kernel
  rw [hjournal] at hlength
  exact hlength

end Colloquy.Script
