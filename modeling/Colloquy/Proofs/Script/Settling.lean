/-
The two halves of an operation. An operation of the engine first settles
what it does and what it comes to, and then tells listeners of it
(`perform_eq_settle`). The settling goes on backstage as a whole
(`settle_backstage`), and the telling is all that is left: by then the
engine is as the operation leaves it.

Only a handler could stand between the two halves, since it runs before
the action is made. The handlers here keep to their contexts, so there is
nothing of theirs that a listener could hear.
-/
import Colloquy.Proofs.Script.Backstage

namespace Colloquy.Script

-- ========================================================== operations

/-- Whether the operation is one of the engine's own. A session stands in front
of the engine, and an emitter and the number of those who listen are not its
own affair. -/
def Operation.isOwn : Operation → Bool
  | .process _ | .emit _ | .ask (.subscribers _) => false
  | _ => true

/-- The programs that the operation brings. -/
def Operation.brings : Operation → List Program
  | .registerHandler _ program => [program]
  | _ => []

/-- Whether the operation `isOwn`, and brings no program but one that
`keepsToContext`. -/
def Operation.isDirect (op : Operation) : Bool :=
  op.isOwn && op.brings.all Program.keepsToContext

/-- Whether the operation says who listens. -/
def Operation.isSubscription : Operation → Bool
  | .subscribe .. | .unsubscribe .. => true
  | _ => false

/-- Whether the operation has news for listeners. -/
def Operation.isTold : Operation → Bool
  | .handle .. | .announce _ => true
  | _ => false

theorem Operation.isOwn_of_isDirect {op : Operation}
    (h : op.isDirect = true) : op.isOwn = true :=
  (Bool.and_eq_true_iff.1 h).1

theorem Operation.brings_keeps {op : Operation} (h : op.isDirect = true) :
    ∀ p ∈ op.brings, p.keepsToContext = true :=
  List.all_eq_true.1 (Bool.and_eq_true_iff.1 h).2

/-- The inner run for an engine that nobody listens to: it does nothing. -/
def deaf : Operation → Run Reply := fun _ => pure .nothing

/-- An action that listeners are to be told of, with the stray of the
activation that ended with it. -/
abbrev News := Action × Option Stray

/-- What an operation does before anyone hears of it: its reply, and the news
for listeners. -/
def settle : Operation → Run (Reply × List News)
  | .handle text intent => do
    let (step, stray) ← carryOut ((← get).engine.plan text intent)
    match step with
    | .settled outcome =>
      return (.outcome outcome stray, outcome.action.toList.map (·, stray))
    | .failed fault => throw (.engine fault)
    | .capture hook a s => do
      touch text a hook
      match (← get).engine.captured s with
      | .error fault => throw (.engine fault)
      | .ok action => return (.outcome (.done action) none, [(action, none)])
  | .announce message => do
    demand (some message)
    let action := (← get).engine.announce message
    return (.action action, [(action, none)])
  | operation => do return (← perform deaf operation, [])

/-- For each of the news, `dispatch` tells the listeners. -/
def tell (inner : Operation → Run Reply) (news : List News) : Run Unit :=
  news.forM fun (action, stray) => dispatch inner action stray

/-- The news in what was settled. -/
def newsIn : Except Fault (Reply × List News) → List News
  | .ok (_, news) => news
  | .error _ => []

/-- The news with which the operation settles. -/
def newsOf (op : Operation) (s : Stage) : List News :=
  newsIn (settle op s).1

/-- A query that `isOwn` has the same answer `alone`. -/
theorem answer_alone {query : Query}
    (h : (Operation.ask query).isOwn = true) (s : Stage) :
    answer s.alone query = answer s query := by
  cases query with
  | subscribers event => exact absurd h Bool.false_ne_true
  | _ => rfl

/-- Whether the operation drops the running workflow. -/
def Operation.isReset : Operation → Bool
  | .reset => true
  | _ => false

/-- Nothing runs within an own operation that is not told of. -/
theorem perform_eq_deaf (inner : Operation → Run Reply) {op : Operation}
    (hop : op.isOwn = true) (htold : op.isTold = false) :
    perform inner op = perform deaf op := by
  cases op with
  | handle text intent => cases htold
  | announce message => cases htold
  | process text => cases hop
  | emit action => cases hop
  | _ => rfl

/-- An own operation that is not told of, is no subscription and is no reset
goes on `Aside`. -/
theorem perform_aside {op : Operation} (hop : op.isOwn = true)
    (hsub : op.isSubscription = false) (htold : op.isTold = false)
    (hreset : op.isReset = false) : Aside op.brings (perform deaf op) := by
  cases op with
  | handle text intent => cases htold
  | announce message => cases htold
  | process text => cases hop
  | emit action => cases hop
  | subscribe event listener => cases hsub
  | unsubscribe event listener => cases hsub
  | reset => cases hreset
  | loadBatch text => exact loadBatch_aside text
  | loadFile path =>
      exact aside_get (fun s => takeLoaded_aside _) fun s => rfl
  | loadBuiltins =>
      exact aside_get (fun s => takeLoaded_aside _) fun s => rfl
  | loadApart text => exact loadApart_aside text
  | swapRegistry text => exact swapRegistry_aside text
  | register record =>
      refine aside_bind (readRecord_aside _) fun d => ?_
      exact aside_bind (register_aside d) fun _ => aside_pure _
  | registerDefinition d =>
      exact aside_bind (register_aside d) fun _ => aside_pure _
  | registerState id state => exact registerState_aside id state
  | registerHandler name program =>
      exact aside_then (registerHandler_aside name program)
        fun _ => aside_pure _
  | ask query =>
      refine aside_get (fun s => ?_) fun s => ?_
      · cases answer s query with
        | error fault => exact aside_throw fault
        | ok reply => exact aside_pure reply
      · rw [answer_alone hop]
  | refuse word => exact aside_throw _

/-- An own operation that is not told of and is no subscription is `Backstage`.
A reset is so too, though not aside. -/
theorem perform_backstage {op : Operation} (hop : op.isOwn = true)
    (hsub : op.isSubscription = false) (htold : op.isTold = false) :
    Backstage op.brings (perform deaf op) := by
  cases hreset : op.isReset with
  | false => exact (perform_aside hop hsub htold hreset).backstage
  | true =>
      cases op with
      | reset =>
          refine backstage_get (fun s => ?_) fun s => rfl
          refine backstage_bind (note_backstage _) fun _ => ?_
          refine backstage_bind remember_backstage fun _ => ?_
          exact backstage_bind (setEngine_backstage _)
            fun _ => backstage_pure _
      | _ => cases hreset

/-- For a direct operation that is no subscription, `settle` is `Backstage`. -/
theorem settle_backstage {op : Operation} (hop : op.isDirect = true)
    (hsub : op.isSubscription = false) : Backstage op.brings (settle op) := by
  have hown := Operation.isOwn_of_isDirect hop
  cases op with
  | handle text intent =>
      refine backstage_get (fun s => ?_) fun s => rfl
      refine backstage_bind (carryOut_backstage _) fun r => ?_
      obtain ⟨step, stray⟩ := r
      cases step with
      | settled outcome => exact backstage_pure _
      | failed fault => exact backstage_throw _
      | capture hook a state =>
          refine backstage_bind (touch_backstage text a hook) fun _ => ?_
          refine backstage_get (fun s => ?_) fun s => rfl
          cases s.engine.captured state with
          | error fault => exact backstage_throw _
          | ok action => exact backstage_pure _
  | announce message =>
      refine backstage_bind (demand_backstage _) fun _ => ?_
      exact backstage_get (fun s => backstage_pure _) fun s => rfl
  | _ =>
      exact backstage_then (perform_backstage hown hsub rfl)
        fun _ => backstage_pure _

/-- A subscription changes the emitter, and nothing else. -/
theorem perform_subscription (inner : Operation → Run Reply)
    (op : Operation) (hsub : op.isSubscription = true) (s : Stage) :
    ∃ m, (perform inner op s).2 = { s with emitter := m } := by
  have hchange : ∀ (change : Emitter → Action.Kind → String → Emitter)
      (event listener : String),
      ∃ m, ((do
          changeEmitter change event listener
          return .nothing : Run Reply) s).2 = { s with emitter := m } := by
    intro change event listener
    unfold changeEmitter
    rw [bind_assoc, get_bind_apply]
    by_cases hknown : s.listeners.contains listener = true
    · simp only [if_pos hknown]
      cases Action.Kind.vocabulary.read event with
      | error word => exact ⟨s.emitter, rfl⟩
      | ok kind => exact ⟨change s.emitter kind listener, rfl⟩
    · simp only [if_neg hknown]
      exact ⟨s.emitter, rfl⟩
  cases op with
  | subscribe event listener => exact hchange Emitter.subscribe event listener
  | unsubscribe event listener =>
      exact hchange Emitter.unsubscribe event listener
  | _ => cases hsub

theorem tell_nil (inner : Operation → Run Reply) :
    tell inner [] = pure () := rfl

theorem tell_singleton (inner : Operation → Run Reply) (action : Action)
    (stray : Option Stray) :
    tell inner [(action, stray)] = dispatch inner action stray := by
  show (dispatch inner action stray >>= fun _ => pure ()) = _
  exact bind_pure _

/-- For a direct operation, `perform` is `settle` and then `tell`. -/
theorem perform_eq_settle (inner : Operation → Run Reply) {op : Operation}
    {s : Stage} (hop : op.isDirect = true) (hs : s.KeepsToContexts) :
    perform inner op s = (do
      let (reply, news) ← settle op
      tell inner news
      return reply : Run Reply) s := by
  cases op with
  | handle text intent =>
      have hkeeps := (carryOut_backstage (s.engine.plan text intent)).keeps
        (fun p hp => absurd hp List.not_mem_nil) hs
      simp only [perform, handle, settle, bind_assoc]
      rw [get_bind_apply, get_bind_apply]
      rcases hcarry : carryOut (s.engine.plan text intent) s
        with ⟨fault | ⟨step, stray⟩, s₁⟩
      · rw [bind_of_error hcarry, bind_of_error hcarry]
      · rw [bind_of_ok hcarry, bind_of_ok hcarry]
        rw [hcarry] at hkeeps
        cases step with
        | settled outcome =>
            simp only [bind_assoc, pure_bind, tell, List.forM_eq_forM,
              List.forM_map]
        | failed fault => rfl
        | capture hook a state =>
            have hhook := runHook_eq inner text a hook hkeeps
            simp only [bind_assoc]
            rcases htouch : touch text a hook s₁ with ⟨fault | done, s₂⟩
            · rw [bind_of_error (hhook.trans htouch), bind_of_error htouch]
            · rw [bind_of_ok (hhook.trans htouch), bind_of_ok htouch,
                get_bind_apply, get_bind_apply]
              cases s₂.engine.captured state with
              | error fault => rfl
              | ok action =>
                  simp only [bind_assoc, pure_bind, tell_singleton]
  | announce message =>
      simp only [perform, settle, bind_assoc, pure_bind, tell_singleton]
  | process text => exact absurd hop Bool.false_ne_true
  | emit action => exact absurd hop Bool.false_ne_true
  | _ =>
      simp only [perform, settle, bind_assoc, pure_bind, tell_nil, bind_pure]

/-- If `tell` does not fail, `perform` comes to what `settle` does, and ends
where telling its news ends. -/
theorem perform_settles (inner : Operation → Run Reply) {op : Operation}
    {s : Stage} (hop : op.isDirect = true) (hs : s.KeepsToContexts)
    (htell : ∀ news, (tell inner news (settle op s).2).1 = .ok ()) :
    (perform inner op s).1 = (settle op s).1.map Prod.fst
      ∧ tell inner (newsOf op s) (settle op s).2
        = (.ok (), (perform inner op s).2) := by
  rw [perform_eq_settle inner hop hs, newsOf]
  rcases hsettle : settle op s with ⟨fault | ⟨reply, news⟩, t⟩
  · rw [bind_of_error hsettle]
    exact ⟨rfl, rfl⟩
  · rw [hsettle] at htell
    have htold : tell inner news t = (.ok (), (tell inner news t).2) :=
      Prod.ext (htell news) rfl
    rw [bind_of_ok hsettle]
    show ((tell inner news >>= fun _ => pure reply) t).1 = .ok reply
      ∧ tell inner news t
        = (.ok (), ((tell inner news >>= fun _ => pure reply) t).2)
    rw [bind_of_ok htold]
    exact ⟨rfl, htold⟩

end Colloquy.Script
