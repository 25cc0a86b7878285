/-
What was seen and noted down before. Entries, events and the journal are for
whoever looks at a run from outside, and no operation reads them. So stages
that differ in nothing else go on alike: every operation comes to the same on
both, the same is seen, and the stages still differ in nothing else
(`runAll_unseeing`). A stage may have come about in any way.

What goes on backstage reads none of it already, and what listeners and
handlers run is looked at here.
-/
import Colloquy.Proofs.Script.Budget

namespace Colloquy.Script

variable {α β : Type}

/-- The stage without its events, its entries and its journal. -/
def Stage.unseen (s : Stage) : Stage :=
  { s with entries := [], events := [], journal := [] }

/-- What the run comes to, and what it adds to the events, depends on the stage
`unseen` only. -/
structure Unseeing (m : Run α) : Prop where
  result : ∀ {s t}, s.unseen = t.unseen → (m s).1 = (m t).1
  stage : ∀ {s t}, s.unseen = t.unseen → (m s).2.unseen = (m t).2.unseen
  events : ∀ {s t}, s.unseen = t.unseen →
    ∃ seen, (m s).2.events = s.events ++ seen
      ∧ (m t).2.events = t.events ++ seen

-- =================================================================== rules

theorem unseeing_pure (a : α) : Unseeing (pure a : Run α) :=
  ⟨fun _ => rfl, fun h => h,
    fun _ => ⟨[], (List.append_nil _).symm, (List.append_nil _).symm⟩⟩

theorem unseeing_throw (fault : Fault) : Unseeing (throw fault : Run α) :=
  ⟨fun _ => rfl, fun h => h,
    fun _ => ⟨[], (List.append_nil _).symm, (List.append_nil _).symm⟩⟩

theorem Unseeing.bind {m : Run α} {k : α → Run β} (hm : Unseeing m)
    (hk : ∀ a, Unseeing (k a)) : Unseeing (m >>= k) := by
  have hcases : ∀ {s t : Stage}, s.unseen = t.unseen →
      (∃ fault, (m >>= k) s = (.error fault, (m s).2)
          ∧ (m >>= k) t = (.error fault, (m t).2))
        ∨ ∃ a, (m >>= k) s = k a (m s).2 ∧ (m >>= k) t = k a (m t).2 := by
    intro s t h
    have hsame := hm.result h
    rcases hms : m s with ⟨fault | a, s'⟩
    · rcases hmt : m t with ⟨fault' | a', t'⟩
      · rw [hms, hmt] at hsame
        cases hsame
        exact .inl ⟨fault, bind_of_error hms, bind_of_error hmt⟩
      · rw [hms, hmt] at hsame
        cases hsame
    · rcases hmt : m t with ⟨fault' | a', t'⟩
      · rw [hms, hmt] at hsame
        cases hsame
      · rw [hms, hmt] at hsame
        cases hsame
        exact .inr ⟨a, bind_of_ok hms, bind_of_ok hmt⟩
  constructor
  · intro s t h
    rcases hcases h with ⟨fault, hs, ht⟩ | ⟨a, hs, ht⟩
    · rw [hs, ht]
    · rw [hs, ht]
      exact (hk a).result (hm.stage h)
  · intro s t h
    rcases hcases h with ⟨fault, hs, ht⟩ | ⟨a, hs, ht⟩
    · rw [hs, ht]
      exact hm.stage h
    · rw [hs, ht]
      exact (hk a).stage (hm.stage h)
  · intro s t h
    obtain ⟨seen, hseen, hseen'⟩ := hm.events h
    rcases hcases h with ⟨fault, hs, ht⟩ | ⟨a, hs, ht⟩
    · rw [hs, ht]
      exact ⟨seen, hseen, hseen'⟩
    · obtain ⟨more, hmore, hmore'⟩ := (hk a).events (hm.stage h)
      rw [hs, ht]
      refine ⟨seen ++ more, ?_, ?_⟩
      · rw [hmore, hseen, List.append_assoc]
      · rw [hmore', hseen', List.append_assoc]

/-- Sequencing after `get`, if what follows depends on the stage `unseen`. -/
theorem unseeing_get {k : Stage → Run α} (hk : ∀ s, Unseeing (k s))
    (hunseen : ∀ s, k s.unseen = k s) : Unseeing (get >>= k) := by
  have hsame : ∀ {s t : Stage}, s.unseen = t.unseen →
      (get >>= k) t = k s t := by
    intro s t h
    rw [get_bind_apply, ← hunseen t, ← h, hunseen]
  constructor
  · intro s t h
    rw [get_bind_apply, hsame h]
    exact (hk s).result h
  · intro s t h
    rw [get_bind_apply, hsame h]
    exact (hk s).stage h
  · intro s t h
    rw [get_bind_apply, hsame h]
    exact (hk s).events h

/-- A run that adds no events and commutes with `unseen` is `Unseeing`. -/
theorem unseeing_of {m : Run α}
    (h : ∀ s, (m s).1 = (m s.unseen).1
      ∧ (m s).2.unseen = (m s.unseen).2.unseen
      ∧ (m s).2.events = s.events) : Unseeing m := by
  constructor
  · intro s t hst
    rw [(h s).1, (h t).1, hst]
  · intro s t hst
    rw [(h s).2.1, (h t).2.1, hst]
  · intro s t _
    exact ⟨[], by rw [(h s).2.2, List.append_nil],
      by rw [(h t).2.2, List.append_nil]⟩

/-- A run that is `Backstage` is `Unseeing`. -/
theorem Backstage.unseeing {new : List Program} {m : Run α}
    (hm : Backstage new m) : Unseeing m := by
  refine unseeing_of fun s => ?_
  obtain ⟨hresult, hstage⟩ := hm.congr (show s.alone = s.unseen.alone from rfl)
  have hframe := hm.frame s
  refine ⟨hresult, ?_, congrArg Audience.events hframe⟩
  have hpart : ∀ u : Stage, u.unseen
      = { u.alone with
          emitter := u.emitter
          listeners := u.listeners
          calls := u.calls } := fun _ => rfl
  have hframe' := hm.frame s.unseen
  have hemitter : (m s).2.emitter = (m s.unseen).2.emitter :=
    (congrArg Audience.emitter hframe).trans
      (congrArg Audience.emitter hframe').symm
  have hlisteners : (m s).2.listeners = (m s.unseen).2.listeners :=
    (congrArg Audience.listeners hframe).trans
      (congrArg Audience.listeners hframe').symm
  have hcalls : (m s).2.calls = (m s.unseen).2.calls :=
    (congrArg Audience.calls hframe).trans
      (congrArg Audience.calls hframe').symm
  rw [hpart, hpart (m s.unseen).2, hstage, hemitter, hlisteners, hcalls]

theorem see_unseeing (event : Event) : Unseeing (see event) :=
  ⟨fun _ => rfl, fun h => h, fun _ => ⟨[event], rfl, rfl⟩⟩

theorem Unseeing.attempt {m : Run α} (hm : Unseeing m) :
    Unseeing (attempt m) :=
  ⟨fun h => congrArg Except.ok (hm.result h), fun h => hm.stage h,
    fun h => hm.events h⟩

theorem Unseeing.forM {f : β → Run Unit} (hf : ∀ b, Unseeing (f b)) :
    ∀ bs : List β, Unseeing (bs.forM f) := by
  intro bs
  induction bs with
  | nil => exact unseeing_pure ()
  | cons b rest ih => exact (hf b).bind fun _ => ih

/-- To be `Unseeing` is a `Law`. -/
theorem unseeing_law : Law fun m _ => Unseeing m where
  nothing := unseeing_pure ()
  andThen := fun hm hk => hm.bind fun _ => hk
  look := fun hsees _ hk => unseeing_get hk fun s => hsees s.unseen s rfl

-- ============================================================== operations

theorem spend_unseeing (slot : Nat) : Unseeing (spend slot) := by
  refine unseeing_of fun s => ?_
  unfold spend
  rw [get_bind_apply, get_bind_apply]
  rw [show s.unseen.programs = s.programs from rfl]
  cases s.programs[slot]? with
  | none => exact ⟨rfl, rfl, rfl⟩
  | some p =>
      dsimp only
      by_cases hlimit : p.limit = 0
      · rw [if_pos hlimit, if_pos hlimit]
        exact ⟨rfl, rfl, rfl⟩
      · rw [if_neg hlimit, if_neg hlimit]
        exact ⟨rfl, rfl, rfl⟩

theorem changeEmitter_unseeing
    (change : Emitter → Action.Kind → String → Emitter)
    (event listener : String) :
    Unseeing (changeEmitter change event listener) := by
  refine unseeing_of fun s => ?_
  unfold changeEmitter
  rw [get_bind_apply, get_bind_apply]
  rw [show s.unseen.listeners = s.listeners from rfl]
  cases s.listeners.contains listener with
  | false => exact ⟨rfl, rfl, rfl⟩
  | true =>
      rw [if_pos rfl, if_pos rfl]
      cases Action.Kind.vocabulary.read event with
      | error word => exact ⟨rfl, rfl, rfl⟩
      | ok kind => exact ⟨rfl, rfl, rfl⟩

section Within

variable {inner : Operation → Run Reply}
  (hinner : ∀ op, Unseeing (inner op))
include hinner

theorem runReactions_unseeing (action : Action) (reactions : List Reaction) :
    Unseeing (runReactions inner action reactions) := by
  induction reactions with
  | nil => exact unseeing_pure ()
  | cons reaction rest ih =>
      cases reaction with
      | fail message => exact (note_backstage _).unseeing
      | operate operation =>
          refine (hinner operation).attempt.bind fun result => ?_
          exact (see_unseeing _).bind fun _ => ih
      | insist operation wording =>
          refine (hinner operation).attempt.bind fun result => ?_
          refine (see_unseeing _).bind fun _ => ?_
          cases result with
          | ok reply => exact ih
          | error fault => exact (note_backstage _).unseeing

theorem hear_unseeing (action : Action) (stray : Option Stray)
    (name : String) : Unseeing (hear inner action stray name) := by
  refine unseeing_get (fun s => ?_) fun s => rfl
  cases s.listeners.get? name with
  | none => exact unseeing_pure ()
  | some l =>
      dsimp only
      by_cases hquiet : l.quiet = true
      · rw [if_pos hquiet]
        exact unseeing_pure ()
      rw [if_neg hquiet]
      refine (see_unseeing _).bind fun _ => ?_
      by_cases hlimit : l.limit = 0
      · rw [if_pos hlimit]
        exact unseeing_pure ()
      rw [if_neg hlimit]
      refine Unseeing.bind (unseeing_of fun _ => ⟨rfl, rfl, rfl⟩) fun _ => ?_
      exact runReactions_unseeing hinner action l.reactions

theorem dispatch_unseeing (action : Action) (stray : Option Stray) :
    Unseeing (dispatch inner action stray) :=
  unseeing_get (fun _ => Unseeing.forM (hear_unseeing hinner action stray) _)
    fun _ => rfl

theorem runHook_unseeing (text : String) (a : Activation) (hook : Hook) :
    Unseeing (runHook inner text a hook) := by
  refine unseeing_law.runHook inner inner
    (fun serial change => (edit_backstage serial change).unseeing)
    (fun slot op => ?_) text a hook
  refine (spend_unseeing slot).bind fun paid => ?_
  cases paid with
  | false => exact unseeing_pure ()
  | true => exact (hinner op).attempt.bind fun result => see_unseeing _

theorem handle_unseeing (text intent : String) :
    Unseeing (handle inner text intent) := by
  refine unseeing_get (fun s => ?_) fun s => rfl
  refine (carryOut_backstage _).unseeing.bind fun r => ?_
  obtain ⟨step, stray⟩ := r
  cases step with
  | settled outcome =>
      refine Unseeing.bind ?_ fun _ => unseeing_pure _
      exact Unseeing.forM (fun action => dispatch_unseeing hinner action stray)
        outcome.action.toList
  | failed fault => exact unseeing_throw _
  | capture hook a state =>
      refine (runHook_unseeing hinner text a hook).bind fun _ => ?_
      refine unseeing_get (fun s => ?_) fun s => rfl
      cases s.engine.captured state with
      | error fault => exact unseeing_throw _
      | ok action =>
          exact (dispatch_unseeing hinner action none).bind
            fun _ => unseeing_pure _

theorem process_unseeing (text : String) :
    Unseeing (process inner text) := by
  have hcalls : ∀ f : List String → List String,
      Unseeing (modify fun s => { s with calls := f s.calls } : Run Unit) :=
    fun _ => unseeing_of fun _ => ⟨rfl, rfl, rfl⟩
  refine (hcalls fun _ => []).bind fun _ => ?_
  refine unseeing_get (fun s => ?_) fun s => ?_
  · cases Session.route s.engine text with
    | blank => exact unseeing_pure _
    | content text =>
        refine (handle_unseeing hinner text _).bind fun r => ?_
        exact unseeing_get (fun _ => unseeing_pure _) fun _ => rfl
    | classify text =>
        refine Unseeing.bind ?_ fun c => ?_
        · refine (hcalls (· ++ [text])).bind fun _ => ?_
          exact unseeing_get (fun _ => unseeing_pure _) fun _ => rfl
        · refine (handle_unseeing hinner text c.intent).bind fun r => ?_
          refine (note_backstage _).unseeing.bind fun _ => ?_
          exact unseeing_get (fun _ => unseeing_pure _) fun _ => rfl
  · rw [show s.unseen.engine = s.engine from rfl]

/-- With inner runs that are `Unseeing`, so is `perform`. -/
theorem perform_unseeing (op : Operation) : Unseeing (perform inner op) := by
  have hquiet : op.isOwn = true → op.isSubscription = false →
      op.isTold = false → Unseeing (perform inner op) := by
    intro hown hsub htold
    rw [perform_eq_deaf inner hown htold]
    exact (perform_backstage hown hsub htold).unseeing
  cases op with
  | handle text intent =>
      exact (handle_unseeing hinner text intent).bind fun _ => unseeing_pure _
  | process text => exact process_unseeing hinner text
  | announce message =>
      refine (demand_backstage _).unseeing.bind fun _ => ?_
      refine unseeing_get (fun s => ?_) fun s => rfl
      exact (dispatch_unseeing hinner _ none).bind fun _ => unseeing_pure _
  | emit action =>
      exact (dispatch_unseeing hinner action none).bind
        fun _ => unseeing_pure _
  | subscribe event listener =>
      exact (changeEmitter_unseeing _ event listener).bind
        fun _ => unseeing_pure _
  | unsubscribe event listener =>
      exact (changeEmitter_unseeing _ event listener).bind
        fun _ => unseeing_pure _
  | ask query =>
      refine unseeing_get (fun s => ?_) fun s => ?_
      · cases answer s query with
        | error fault => exact unseeing_throw fault
        | ok reply => exact unseeing_pure reply
      · cases query with
        | _ => rfl
  | _ => exact hquiet rfl rfl rfl

end Within

-- =================================================================== runs

theorem journalled_unseeing {m : Operation → Run Reply}
    (hm : ∀ op, Unseeing (m op)) (op : Operation) :
    Unseeing (journalled m op) :=
  ⟨fun h => (hm op).result h, fun h => (hm op).stage h,
    fun h => (hm op).events h⟩

theorem within_unseeing (depth : Nat) :
    ∀ op, Unseeing (within depth op) := by
  induction depth with
  | zero => exact fun _ => unseeing_pure _
  | succ depth ih =>
      intro op
      show Unseeing (runWithin depth op)
      rw [runWithin_eq]
      exact journalled_unseeing (perform_unseeing ih) op

/-- Every operation is `Unseeing`. -/
theorem run_unseeing (op : Operation) : Unseeing (run op) := by
  have hdepth : ∀ {s t : Stage}, s.unseen = t.unseen →
      ∃ depth, run op s = within depth op s
        ∧ run op t = within depth op t := by
    intro s t h
    have hbudget : s.budget = t.budget := by
      have := congrArg Stage.budget h
      exact this
    exact ⟨s.budget + op.weight + 1, rfl, by rw [hbudget]; rfl⟩
  constructor
  · intro s t h
    obtain ⟨depth, hs, ht⟩ := hdepth h
    rw [hs, ht]
    exact (within_unseeing depth op).result h
  · intro s t h
    obtain ⟨depth, hs, ht⟩ := hdepth h
    rw [hs, ht]
    exact (within_unseeing depth op).stage h
  · intro s t h
    obtain ⟨depth, hs, ht⟩ := hdepth h
    rw [hs, ht]
    exact (within_unseeing depth op).events h

/-- From stages that are equal `unseen`, operations come to the same and add
the same events. -/
theorem runAll_unseeing (ops : List Operation) {s t : Stage}
    (h : s.unseen = t.unseen) :
    (runAll ops s).1 = (runAll ops t).1
      ∧ (runAll ops s).2.unseen = (runAll ops t).2.unseen
      ∧ ∃ seen, (runAll ops s).2.events = s.events ++ seen
        ∧ (runAll ops t).2.events = t.events ++ seen := by
  induction ops generalizing s t with
  | nil =>
      exact ⟨rfl, h, [], (List.append_nil _).symm, (List.append_nil _).symm⟩
  | cons op rest ih =>
      have hrun := run_unseeing op
      obtain ⟨seen, hseen, hseen'⟩ := hrun.events h
      obtain ⟨hresults, hstage, more, hmore, hmore'⟩ := ih (hrun.stage h)
      refine ⟨?_, hstage, seen ++ more, ?_, ?_⟩
      · show (run op s).1 :: (runAll rest (run op s).2).1 = _
        rw [hrun.result h, hresults]
        rfl
      · rw [← List.append_assoc, ← hseen]
        exact hmore
      · rw [← List.append_assoc, ← hseen']
        exact hmore'

end Colloquy.Script
