/-
From one call to the next. The calls of a run lie in a line, in the order
in which they started; each finds the engine as the call before it settled
it. Where handlers keep to their contexts and leave texts in the buffers,
what a call settles can be read off what it found: an input that comes to
no handler goes where its plan says, and nothing else but a reset touches
the running workflow (`Follows.passes`).

That every operation of a run is of some kind is asked of the operations
that are given and of those that listeners run; then all that start are of
that kind (`runAll_starts`).
-/
import Colloquy.Proofs.Script.Counting
import Colloquy.Proofs.Script.Episodes

namespace Colloquy.Script

-- ======================================================= fair operations

/-- From `s` to `t` only `fair` operations started; listeners still run none
but fair ones, and programs keep to their contexts. -/
structure Starts (fair : Operation → Prop) (s t : Stage) : Prop where
  keeps : t.KeepsToContexts
  reacts : t.Reacts fair
  journal : ∃ calls, t.journal = s.journal ++ calls
    ∧ ∀ call ∈ startedAll calls, fair call.operation

variable {fair : Operation → Prop}

/-- If the journal is the same, nothing started. -/
theorem Starts.of_journal {s t : Stage} (hkeeps : t.KeepsToContexts)
    (hreacts : t.Reacts fair) (h : t.journal = s.journal) :
    Starts fair s t :=
  ⟨hkeeps, hreacts, [], by rw [h, List.append_nil], nofun⟩

theorem Starts.trans {s t u : Stage} (h : Starts fair s t)
    (h' : Starts fair t u) : Starts fair s u := by
  obtain ⟨calls, hcalls, hfair⟩ := h.journal
  obtain ⟨more, hmore, hfair'⟩ := h'.journal
  refine ⟨h'.keeps, h'.reacts, calls ++ more, ?_, ?_⟩
  · rw [hmore, hcalls, List.append_assoc]
  · intro call hcall
    rw [startedAll_append] at hcall
    rcases List.mem_append.1 hcall with hcall | hcall
    · exact hfair call hcall
    · exact hfair' call hcall

theorem starts_carries : Carries (Starts fair) fair where
  trans h h' := h.trans h'
  good h := .of_journal h.keeps h.reacts rfl
  reacts h := h.reacts
  aside h hreacts halone hjournal :=
    .of_journal (h.keeps.congr halone) hreacts hjournal

section Starts

variable (hdirect : ∀ op, fair op → op.isDirect = true)
  {inner : Operation → Run Reply}
  (hinner : ∀ op s, fair op → Starts fair s s →
    Starts fair s (inner op s).2)
include hdirect hinner

/-- With inner runs that start fair operations only, so does `perform`. -/
theorem perform_starts {op : Operation} (hop : fair op) {s : Stage}
    (hs : Starts fair s s) : Starts fair s (perform inner op s).2 := by
  cases hsub : op.isSubscription with
  | true =>
      obtain ⟨m, hm⟩ := perform_subscription inner op hsub s
      rw [hm]
      exact .of_journal hs.keeps hs.reacts rfl
  | false =>
      have hback := settle_backstage (hdirect op hop) hsub
      have hframe := hback.frame s
      have hsettled : Starts fair s (settle op s).2 := by
        refine .of_journal (hback.keeps
          (Operation.brings_keeps (hdirect op hop)) hs.keeps) ?_
          (congrArg Audience.journal hframe)
        unfold Stage.Reacts
        rw [show (settle op s).2.listeners = s.listeners from
          congrArg Audience.listeners hframe]
        exact hs.reacts
      have htells : ∀ news, (tell inner news (settle op s).2).1 = .ok ()
          ∧ Starts fair (settle op s).2
            (tell inner news (settle op s).2).2 := fun news =>
        tell_carries starts_carries hinner news (starts_carries.good hsettled)
      obtain ⟨-, htell⟩ := perform_settles inner (hdirect op hop) hs.keeps
        fun news => (htells news).1
      have htold := (htells (newsOf op s)).2
      rw [htell] at htold
      exact hsettled.trans htold

/-- The same for `journalled`, whose call is fair. -/
theorem journalled_starts {op : Operation} (hop : fair op) {s : Stage}
    (hs : Starts fair s s) :
    Starts fair s (journalled (perform inner) op s).2 := by
  let blank : Stage := { s with journal := [] }
  have hblank : Starts fair blank blank :=
    .of_journal hs.keeps hs.reacts rfl
  have hstarts := perform_starts hdirect hinner hop hblank
  obtain ⟨calls, hcalls, hfair⟩ := hstarts.journal
  let r := perform inner op blank
  refine ⟨hstarts.keeps, hstarts.reacts,
    [.mk op s.engine r.1 r.2.journal], rfl, ?_⟩
  intro call hcall
  rw [startedAll, startedAll, List.append_nil, Call.started] at hcall
  rcases List.mem_cons.1 hcall with rfl | hcall
  · exact hop
  · rw [show r.2.journal = calls from hcalls] at hcall
    exact hfair call hcall

end Starts

/-- In a run of fair operations, where listeners react with fair operations,
all that start are fair. -/
theorem runAll_starts (hdirect : ∀ op, fair op → op.isDirect = true)
    (ops : List Operation) {s : Stage} (hops : ∀ op ∈ ops, fair op)
    (hkeeps : s.KeepsToContexts) (hreacts : s.Reacts fair) :
    Starts fair s (runAll ops s).2 := by
  have hwithin : ∀ depth op s, fair op → Starts fair s s →
      Starts fair s (within depth op s).2 := by
    intro depth
    induction depth with
    | zero => exact fun _ _ _ hs => hs
    | succ depth ih =>
        intro op s hop hs
        show Starts fair s (runWithin depth op s).2
        rw [runWithin_eq]
        exact journalled_starts hdirect ih hop hs
  have hrun : ∀ op s, fair op → Starts fair s s →
      Starts fair s (run op s).2 := by
    intro op s hop hs
    unfold run
    rw [runWithin_eq]
    exact journalled_starts hdirect (hwithin _) hop hs
  induction ops generalizing s with
  | nil => exact .of_journal hkeeps hreacts rfl
  | cons op rest ih =>
      have hfirst := hrun op s (hops op (List.mem_cons_self ..))
        (.of_journal hkeeps hreacts rfl)
      exact hfirst.trans (ih
        (fun op' h => hops op' (List.mem_cons_of_mem _ h))
        hfirst.keeps hfirst.reacts)

-- ======================================================== steady stages

/-- The operation is `Calm` and spares the counters. -/
structure Operation.Steady (op : Operation) : Prop where
  calm : op.Calm
  spares : op.Spares

/-- An operation that `isOwn` and brings no program is `Steady`. -/
theorem Operation.Steady.of_own {op : Operation} (hown : op.isOwn = true)
    (hbrings : op.brings = []) : op.Steady := by
  refine ⟨⟨hown, ?_⟩, Operation.Spares.of_own hown hbrings⟩
  rw [hbrings]
  exact nofun

/-- Every program on the stage is `Tame` and spares the counters, listeners
react with `Steady` operations, and the stage is `Clear`. -/
structure Stage.Steady (s : Stage) : Prop where
  tame : ∀ p ∈ s.programs, p.Tame
  spares : ∀ p ∈ s.programs, p.Spares
  reacts : s.Reacts Operation.Steady
  clear : s.Clear

theorem Stage.Steady.keeps {s : Stage} (h : s.Steady) : s.KeepsToContexts :=
  fun p hp => (h.tame p hp).keeps

theorem Stage.Steady.direct {s : Stage} (h : s.Steady) : s.Direct :=
  ⟨h.keeps, fun l hl r hr => Reaction.isDirect_iff.2 fun op hop =>
    (h.reacts l hl r hr op hop).calm.direct⟩

theorem Stage.Steady.sparing {s : Stage} (h : s.Steady) : s.Spares :=
  ⟨h.spares, fun l hl r hr op hop => (h.reacts l hl r hr op hop).spares⟩

-- ============================================================== one call

/-- How a call passes the engine on: an input without a `hook?` leaves the
engine of its plan, a reset makes it idle, and nothing else touches the running
workflow. -/
structure Call.Passes (call : Call) (e : Engine Hook) : Prop where
  handled : ∀ text intent, call.operation = .handle text intent →
    (call.found.plan text intent).course.hook? = none →
    e.active = (call.found.plan text intent).carryOut.engine.active
  dropped : call.operation = .reset → e.active = none
  kept : (∀ text intent, call.operation ≠ .handle text intent) →
    call.operation ≠ .reset → e.active = call.found.active

/-- An input without a `hook?` settles on the engine of its plan. -/
theorem settle_handle_engine {text intent : String} {s : Stage}
    (hs : s.strays = [])
    (hhook : (s.engine.plan text intent).course.hook? = none) :
    (settle (.handle text intent) s).2.engine
      = (s.engine.plan text intent).carryOut.engine := by
  simp only [settle]
  rw [get_bind_apply]
  rcases carryOut_cases (s.engine.plan text intent) s
    with ⟨hstrays, -, -⟩ | ⟨stray, t, hcarry, ht⟩
  · exact absurd hs hstrays
  · rw [bind_of_ok hcarry, ← ht]
    generalize s.engine.plan text intent = p at hhook
    obtain ⟨engine, entries, course⟩ := p
    cases course with
    | capture hook a state => cases hhook
    | _ => rfl

/-- What an operation settles is what its call `Passes` on. -/
theorem settle_passes {op : Operation} (hop : op.isOwn = true)
    (hsub : op.isSubscription = false) {s : Stage} (hs : s.strays = [])
    {call : Call} (hoperation : call.operation = op)
    (hfound : call.found = s.engine) :
    call.Passes (settle op s).2.engine := by
  subst hoperation
  have hrunning : call.operation.isTold = false →
      (settle call.operation s).2.engine.active
        = if call.operation.isReset then none else s.engine.active :=
    fun htold => (settle_running hop hsub htold s).2
  refine ⟨?_, ?_, ?_⟩
  · intro text intent hhandle hhook
    rw [hfound] at hhook ⊢
    rw [hhandle, settle_handle_engine hs hhook]
  · intro hreset
    rw [hreset] at hrunning ⊢
    exact hrunning rfl
  · intro hhandle hreset
    rw [hfound]
    cases hoperation : call.operation with
    | handle text intent => exact absurd hoperation (hhandle text intent)
    | announce message => rw [settle_announce]
    | reset => exact absurd hoperation hreset
    | _ =>
        rw [hoperation] at hrunning
        exact hrunning rfl

-- ============================================================= all calls

/-- The engine as the first of the calls found it, or `last` if there is none.
-/
def foundNext (calls : List Call) (last : Engine Hook) : Engine Hook :=
  (calls.head?.map Call.found).getD last

/-- The first of the calls that follow from `s` found the engine of `s`. -/
theorem Follows.foundNext {s t : Stage} {calls : List Call}
    (h : Follows s calls t) : Script.foundNext calls t.engine = s.engine := by
  cases h with
  | done h => exact (Stage.engine_eq_of_alone h).symm
  | subscription _ hfound _ => exact hfound
  | operation _ _ hfound _ _ => exact hfound

/-- Every call of a line passes the engine on to the next one. -/
theorem Follows.passes {s t : Stage} {calls : List Call}
    (h : Follows s calls t)
    (hcalm : ∀ call ∈ calls, call.operation.Calm)
    (htame : ∀ p ∈ s.programs, p.Tame) (hs : s.Clear) :
    ∀ before call after, calls = before ++ call :: after →
      call.Passes (Script.foundNext after t.engine) := by
  induction h with
  | done h =>
      intro before call after hsplit
      simp at hsplit
  | @subscription s t first calls hsub hfound rest ih =>
      have hrest := ih
        (fun call h => hcalm call (List.mem_cons_of_mem _ h)) htame hs
      intro before call after hsplit
      cases before with
      | cons other before =>
          exact hrest before call after (List.cons.inj hsplit).2
      | nil =>
          cases hsplit
          rw [rest.foundNext, ← hfound]
          refine ⟨?_, ?_, fun _ _ => rfl⟩
          · intro text intent hhandle
            rw [hhandle] at hsub
            cases hsub
          · intro hreset
            rw [hreset] at hsub
            cases hsub
  | @operation s t first calls hop hsub hfound hresult rest ih =>
      have hfirst := hcalm first (List.mem_cons_self ..)
      have hrest := ih
        (fun call h => hcalm call (List.mem_cons_of_mem _ h))
        ((settle_backstage hop hsub).all hfirst.tame htame)
        (settle_clear hfirst hsub htame hs)
      intro before call after hsplit
      cases before with
      | cons other before =>
          exact hrest before call after (List.cons.inj hsplit).2
      | nil =>
          cases hsplit
          rw [rest.foundNext]
          exact settle_passes hfirst.own hsub hs.strays rfl hfound

end Colloquy.Script
