/-
Who is told of what. Listeners come and go while others are told, by what
those do in answer: they subscribe and leave, send actions of their own,
call the engine, and raise. Told of an action are those who stood with its
kind when the telling began, each once, in the order in which they stood
then; whatever happens in between counts for later tellings only.

`Runs`, `Performs` and `Informs` say so without an emitter. They go along the
calls that the journal holds and the hearings that could be seen, and keep
the history of changes by which `Lineup` says who stands where. A run of
any operations follows them, whatever nests within what, and its emitter
keeps its rows as the history tells (`runAll_performs`).

# The induction

It is on the depth to which operations nest. Everything between two
operations goes on from stage to stage (`Goes`), and the telling is taken
apart listener by listener, with the names fixed when it begins
(`forM_hear_tells`). Whether a listener raises, or is done with its
reactions, decides which calls there are, and nothing else.
-/
import Colloquy.Proofs.Emitter
import Colloquy.Proofs.Script.Registering

namespace Colloquy.Script

variable {α β : Type}

-- ================================================================ hearings

/-- A listener, and the action that it heard of. -/
abbrev Hearing := String × Action

/-- The `Hearing` of an event, if it is one. -/
def Event.hearing? : Event → Option Hearing
  | .heard listener action _ _ _ => some (listener, action)
  | .nested _ => none

/-- Every `Hearing` so far, in order. -/
def Stage.heard (s : Stage) : List Hearing :=
  s.events.filterMap Event.hearing?

/-- Whether the listener `name` is quiet, if it is there. -/
def Stage.ears (s : Stage) (name : String) : Option Bool :=
  (s.listeners.get? name).map Listener.quiet

-- ========================================================== the telling

/-- The `Change` that a subscription makes, if its kind is known. -/
def Operation.change? : Operation → Option Change
  | .subscribe event listener =>
    (Action.Kind.vocabulary.read event).toOption.map (⟨·, listener, true⟩)
  | .unsubscribe event listener =>
    (Action.Kind.vocabulary.read event).toOption.map (⟨·, listener, false⟩)
  | _ => none

/-- The action that listeners are told of by an operation with this result. -/
def sent? : Operation → Except Fault Reply → Option Action
  | .emit action, _ => some action
  | .handle .., .ok (.outcome outcome _) => outcome.action
  | .process _, .ok (.turn turn _ _) => turn.outcome.action
  | .announce _, .ok (.action action) => some action
  | _, _ => none

mutual

/-- Calls one after another, each of which `Performs`. -/
inductive Runs (ears : String → Option Bool) :
    List Change → List Call → List Hearing → List Change → Prop
  | nil {history : List Change} : Runs ears history [] [] history
  | cons {history history' history'' : List Change} {call : Call}
      {calls : List Call} {heard more : List Hearing}
      (first : Performs ears history call heard history')
      (rest : Runs ears history' calls more history'') :
      Runs ears history (call :: calls) (heard ++ more) history''

/-- What one call does. It makes a `Change`, or is refused because there is no
such listener or no such kind; or other calls run within it, and then it may
tell the lineup of an action's kind. Nothing runs before that if the call is an
`emit`, and the telling does not make it fail. -/
inductive Performs (ears : String → Option Bool) :
    List Change → Call → List Hearing → List Change → Prop
  | changes {history : List Change} {op : Operation} {found : Engine Hook}
      {change : Change} (hchange : op.change? = some change)
      (hthere : ears change.listener ≠ none) :
      Performs ears history (.mk op found (.ok .nothing) []) []
        (history ++ [change])
  | refused {history : List Change} {op : Operation} {found : Engine Hook}
      {fault : Fault} (hsub : op.isSubscription = true)
      (hnone : ∀ change, op.change? = some change →
        ears change.listener = none) :
      Performs ears history (.mk op found (.error fault) []) [] history
  | silent {history history' : List Change} {op : Operation}
      {found : Engine Hook} {result : Except Fault Reply} {calls : List Call}
      {heard : List Hearing} (hsub : op.isSubscription = false)
      (hsent : sent? op result = none)
      (inside : Runs ears history calls heard history') :
      Performs ears history (.mk op found result calls) heard history'
  | sends {history history' history'' : List Change} {op : Operation}
      {found : Engine Hook} {result : Except Fault Reply} {action : Action}
      {names : List String} {before after : List Call}
      {heard more : List Hearing} (hsent : sent? op result = some action)
      (hok : ∃ reply, result = .ok reply)
      (hfirst : op = .emit action → before = [])
      (inside : Runs ears history before heard history')
      (hnames : Lineup history' action.kind names)
      (telling : Informs ears action names history' after more history'') :
      Performs ears history (.mk op found result (before ++ after))
        (heard ++ more) history''

/-- The listeners in a lineup are told of an action one after another. Each one
that is there and is not quiet hears of it, and what runs in answer runs before
the next one is told. -/
inductive Informs (ears : String → Option Bool) :
    Action → List String → List Change → List Call → List Hearing →
      List Change → Prop
  | nil {action : Action} {history : List Change} :
      Informs ears action [] history [] [] history
  | deaf {action : Action} {name : String} {names : List String}
      {history history' : List Change} {calls : List Call}
      {heard : List Hearing} (hdeaf : ears name ≠ some false)
      (rest : Informs ears action names history calls heard history') :
      Informs ears action (name :: names) history calls heard history'
  | hears {action : Action} {name : String} {names : List String}
      {history history' history'' : List Change} {calls others : List Call}
      {heard more : List Hearing} (hears : ears name = some false)
      (reacts : Runs ears history calls heard history')
      (rest : Informs ears action names history' others more history'') :
      Informs ears action (name :: names) history (calls ++ others)
        ((name, action) :: (heard ++ more)) history''

end

theorem Runs.append {ears : String → Option Bool}
    {history history' history'' : List Change} {calls others : List Call}
    {heard more : List Hearing} (h : Runs ears history calls heard history')
    (h' : Runs ears history' others more history'') :
    Runs ears history (calls ++ others) (heard ++ more) history'' := by
  induction calls generalizing history heard with
  | nil =>
      cases h
      exact h'
  | cons call rest ih =>
      cases h with
      | cons first rest =>
          rw [List.append_assoc]
          exact .cons first (ih rest)

-- ============================================================= going on

/-- From `s` to `t`, the emitter, the listeners, what was heard and the journal
are the same. -/
structure Quiet (s t : Stage) : Prop where
  emitter : t.emitter = s.emitter
  ears : t.ears = s.ears
  heard : t.heard = s.heard
  journal : t.journal = s.journal

/-- From `s` to `t` calls ran, as `Runs` says, and the emitter still `Keeps`
the history. -/
structure Goes (s t : Stage) : Prop where
  ears : t.ears = s.ears
  runs : ∀ history, s.emitter.Keeps history →
    ∃ calls heard history', t.journal = s.journal ++ calls
      ∧ t.heard = s.heard ++ heard
      ∧ Runs s.ears history calls heard history'
      ∧ t.emitter.Keeps history'

theorem Quiet.goes {s t : Stage} (h : Quiet s t) : Goes s t := by
  refine ⟨h.ears, fun history hs => ⟨[], [], history, ?_, ?_, .nil, ?_⟩⟩
  · rw [h.journal, List.append_nil]
  · rw [h.heard, List.append_nil]
  · rw [h.emitter]
    exact hs

theorem Quiet.trans {s t u : Stage} (h : Quiet s t) (h' : Quiet t u) :
    Quiet s u where
  emitter := h'.emitter.trans h.emitter
  ears := h'.ears.trans h.ears
  heard := h'.heard.trans h.heard
  journal := h'.journal.trans h.journal

theorem Goes.refl (s : Stage) : Goes s s :=
  Quiet.goes ⟨rfl, rfl, rfl, rfl⟩

theorem Goes.trans {s t u : Stage} (h : Goes s t) (h' : Goes t u) :
    Goes s u := by
  refine ⟨h'.ears.trans h.ears, fun history hs => ?_⟩
  obtain ⟨calls, heard, history', hj, he, hruns, ht⟩ := h.runs history hs
  obtain ⟨others, more, history'', hj', he', hruns', hu⟩ :=
    h'.runs history' ht
  rw [h.ears] at hruns'
  refine ⟨calls ++ others, heard ++ more, history'', ?_, ?_,
    hruns.append hruns', hu⟩
  · rw [hj', hj, List.append_assoc]
  · rw [he', he, List.append_assoc]

/-- From every stage, the run `Goes` on. -/
def Ongoing (m : Run α) : Prop := ∀ s, Goes s (m s).2

theorem Ongoing.bind {m : Run α} {k : α → Run β} (hm : Ongoing m)
    (hk : ∀ a, Ongoing (k a)) : Ongoing (m >>= k) := by
  intro s
  have hms := hm s
  rw [bind_apply]
  rcases h : m s with ⟨fault | a, t⟩
  · rw [h] at hms
    exact hms
  · rw [h] at hms
    exact hms.trans (hk a t)

theorem ongoing_get {k : Stage → Run α} (hk : ∀ s, Ongoing (k s)) :
    Ongoing (get >>= k) := fun s => hk s s

/-- To be `Ongoing` is a `Law`. -/
theorem ongoing_law : Law fun m _ => Ongoing m where
  nothing := fun s => .refl s
  andThen := fun hm hk => hm.bind fun _ => hk
  look := fun _ _ hk => ongoing_get hk

/-- A run that is `Backstage` is `Quiet`. -/
theorem Backstage.quiet {new : List Program} {m : Run α}
    (hm : Backstage new m) (s : Stage) : Quiet s (m s).2 := by
  have hframe := hm.frame s
  refine ⟨congrArg Audience.emitter hframe, ?_, ?_,
    congrArg Audience.journal hframe⟩
  · exact congrArg (fun a name => (a.listeners.get? name).map Listener.quiet)
      hframe
  · exact congrArg (fun a => a.events.filterMap Event.hearing?) hframe

theorem Backstage.ongoing {new : List Program} {m : Run α}
    (hm : Backstage new m) : Ongoing m := fun s => (hm.quiet s).goes

/-- To see the end of an operation within is `Ongoing`: it is no `Hearing`. -/
theorem see_nested_ongoing (reply : Except Fault Reply) :
    Ongoing (see (.nested reply)) := by
  intro s
  refine Quiet.goes ⟨rfl, rfl, ?_, rfl⟩
  show (s.events ++ [Event.nested reply]).filterMap Event.hearing? = s.heard
  rw [List.filterMap_append]
  exact List.append_nil _

theorem spend_ongoing (slot : Nat) : Ongoing (spend slot) := by
  intro s
  obtain ⟨programs, hspend⟩ := spend_stage slot s
  rw [hspend]
  exact Quiet.goes ⟨rfl, rfl, rfl, rfl⟩

-- ============================================================== telling

/-- From `s` to `t` the listeners `names` were told of an action, as `Informs`
says, and the emitter still `Keeps` the history. -/
structure Told (action : Action) (names : List String) (s t : Stage) :
    Prop where
  ears : t.ears = s.ears
  tells : ∀ history, s.emitter.Keeps history →
    ∃ calls heard history', t.journal = s.journal ++ calls
      ∧ t.heard = s.heard ++ heard
      ∧ Informs s.ears action names history calls heard history'
      ∧ t.emitter.Keeps history'

/-- From one stage to another calls ran, and then the lineup of an action's
kind may have been `Told`. -/
inductive Sends : Option Action → Stage → Stage → Prop
  | silent {s t : Stage} (before : Goes s t) : Sends none s t
  | sends {action : Action} {s t u v : Stage} (before : Goes s t)
      (told : Told action (t.emitter.listeners action.kind) t u)
      (after : Quiet u v) : Sends (some action) s v

theorem Sends.quiet {sent : Option Action} {s t u : Stage}
    (h : Sends sent s t) (h' : Quiet t u) : Sends sent s u := by
  cases h with
  | silent before => exact .silent (before.trans h'.goes)
  | sends before told after => exact .sends before told (after.trans h')

theorem Sends.after {sent : Option Action} {s t u : Stage}
    (h : Sends sent t u) (h' : Goes s t) : Sends sent s u := by
  cases h with
  | silent before => exact .silent (h'.trans before)
  | sends before told after => exact .sends (h'.trans before) told after

/-- From `s`, with an empty journal, to `t` the operation came to `result` as
`Performs` says. -/
structure Performed (op : Operation) (result : Except Fault Reply)
    (s t : Stage) : Prop where
  ears : t.ears = s.ears
  performs : ∀ history found, s.emitter.Keeps history →
    ∃ heard history', t.heard = s.heard ++ heard
      ∧ Performs s.ears history (.mk op found result t.journal) heard history'
      ∧ t.emitter.Keeps history'

/-- If an operation other than `emit` has something `sent?`, it succeeded. -/
theorem ok_of_sent? {op : Operation} {result : Except Fault Reply}
    {action : Action} (hemit : ∀ action, op ≠ .emit action)
    (hsent : sent? op result = some action) : ∃ reply, result = .ok reply := by
  cases result with
  | ok reply => exact ⟨reply, rfl⟩
  | error fault =>
      cases op with
      | emit action => exact absurd rfl (hemit action)
      | _ => cases hsent

/-- An operation that is no subscription and `Sends` what is `sent?` is
`Performed`. -/
theorem Sends.performed {op : Operation} {result : Except Fault Reply}
    {s t : Stage} (h : Sends (sent? op result) s t)
    (hsub : op.isSubscription = false) (hemit : ∀ action, op ≠ .emit action)
    (hjournal : s.journal = []) : Performed op result s t := by
  generalize hsent : sent? op result = sent at h
  cases h with
  | silent before =>
      refine ⟨before.ears, fun history found hs => ?_⟩
      obtain ⟨calls, heard, history', hj, he, hruns, ht⟩ :=
        before.runs history hs
      rw [hj, hjournal, List.nil_append]
      exact ⟨heard, history', he, .silent hsub hsent hruns, ht⟩
  | @sends action s t u v before told after =>
      refine ⟨after.ears.trans (told.ears.trans before.ears),
        fun history found hs => ?_⟩
      obtain ⟨calls, heard, history', hj, he, hruns, ht⟩ :=
        before.runs history hs
      obtain ⟨others, more, history'', hj', he', htells, hu⟩ :=
        told.tells history' ht
      rw [before.ears] at htells
      rw [after.journal, after.heard, after.emitter, hj', hj, hjournal,
        List.nil_append, he', he, List.append_assoc]
      exact ⟨heard ++ more, history'', rfl,
        .sends hsent (ok_of_sent? hemit hsent)
          (fun hop => absurd hop (hemit action)) hruns
          (ht action.kind) htells, hu⟩

/-- A subscription is `Performed`: the listener changes where it stands, or is
refused. -/
theorem changeEmitter_performed (joins : Bool) {op : Operation}
    {f : Emitter → Action.Kind → String → Emitter} {event listener : String}
    {s : Stage}
    (hf : ∀ m kind, f m kind listener = m.change ⟨kind, listener, joins⟩)
    (hop : op.change? = (Action.Kind.vocabulary.read event).toOption.map
      (⟨·, listener, joins⟩))
    (hsub : op.isSubscription = true) (hjournal : s.journal = []) :
    let r := (do
      changeEmitter f event listener
      return .nothing : Run Reply) s
    Performed op r.1 s r.2 := by
  have hrefused : ∀ fault, (∀ change, op.change? = some change →
      s.ears change.listener = none) → Performed op (.error fault) s s := by
    refine fun fault hnone => ⟨rfl, fun history found hs => ?_⟩
    rw [hjournal]
    exact ⟨[], history, (List.append_nil _).symm, .refused hsub hnone, hs⟩
  have hears : s.ears listener = none
      ↔ ¬ s.listeners.contains listener = true := by
    unfold Stage.ears Catalog.contains
    rw [Option.map_eq_none_iff, Option.not_isSome_iff_eq_none]
  unfold changeEmitter
  rw [bind_assoc, get_bind_apply]
  by_cases hknown : s.listeners.contains listener = true
  · simp only [if_pos hknown]
    cases hkind : Action.Kind.vocabulary.read event with
    | error word =>
        rw [hkind] at hop
        refine hrefused _ fun change hchange => ?_
        cases hop.symm.trans hchange
    | ok kind =>
        rw [hkind] at hop
        have hthere : s.ears listener ≠ none := fun hnone =>
          hears.1 hnone hknown
        refine ⟨rfl, fun history found hs => ?_⟩
        have hrow := hs.change ⟨kind, listener, joins⟩
        rw [← hf] at hrow
        refine ⟨[], history ++ [Change.mk kind listener joins],
          (List.append_nil _).symm, ?_, hrow⟩
        show Performs s.ears history
          (.mk op found (.ok .nothing) s.journal) [] _
        rw [hjournal]
        exact .changes hop hthere
  · simp only [if_neg hknown]
    refine hrefused _ fun change hchange => ?_
    obtain ⟨kind, -, rfl⟩ := Option.map_eq_some_iff.1 (hop.symm.trans hchange)
    exact hears.2 hknown

section Within

variable {inner : Operation → Run Reply} (hinner : ∀ op, Ongoing (inner op))
include hinner

theorem nested_ongoing (op : Operation) {k : Except Fault Reply → Run α}
    (hk : ∀ reply, Ongoing (k reply)) : Ongoing (do
      let reply ← attempt (inner op)
      see (.nested reply)
      k reply) := by
  refine Ongoing.bind (fun s => hinner op s) fun reply => ?_
  exact (see_nested_ongoing reply).bind fun _ => hk reply

theorem runReactions_ongoing (action : Action) (reactions : List Reaction) :
    Ongoing (runReactions inner action reactions) := by
  induction reactions with
  | nil => exact fun s => .refl s
  | cons reaction rest ih =>
      cases reaction with
      | fail message => exact (note_backstage _).ongoing
      | operate op => exact nested_ongoing hinner op fun _ => ih
      | insist op wording =>
          refine nested_ongoing hinner op fun reply => ?_
          cases reply with
          | ok reply => exact ih
          | error fault => exact (note_backstage _).ongoing

/-- With inner runs that are `Ongoing`, so is `runHook`. -/
theorem runHook_ongoing (text : String) (a : Activation) (hook : Hook) :
    Ongoing (runHook inner text a hook) := by
  refine ongoing_law.runHook inner inner
    (fun serial change => (edit_backstage serial change).ongoing)
    (fun slot op => ?_) text a hook
  refine (spend_ongoing slot).bind fun paid => ?_
  cases paid with
  | false => exact fun s => .refl s
  | true => exact nested_ongoing hinner op fun _ s => .refl s

/-- The two cases of `hear`: nothing happens, or the listener hears of the
action and the run `Goes` on from there. -/
theorem hear_cases (action : Action) (stray : Option Stray) (name : String)
    (s : Stage) :
    (s.ears name ≠ some false ∧ (hear inner action stray name s).2 = s)
      ∨ s.ears name = some false
        ∧ ∃ event, Event.hearing? event = some (name, action)
          ∧ Goes { s with events := s.events ++ [event] }
            (hear inner action stray name s).2 := by
  unfold hear
  rw [get_bind_apply]
  unfold Stage.ears
  cases hl : s.listeners.get? name with
  | none => exact .inl ⟨nofun, rfl⟩
  | some l =>
      dsimp only
      by_cases hquiet : l.quiet = true
      · rw [if_pos hquiet, Option.map_some, hquiet]
        exact .inl ⟨by decide, rfl⟩
      rw [if_neg hquiet]
      let event : Event := .heard name action stray s.engine.workflow?
        s.engine.stateKey?
      let told : Stage := { s with events := s.events ++ [event] }
      refine .inr ⟨congrArg some (Bool.eq_false_iff.2 hquiet), event, rfl, ?_⟩
      rw [bind_of_ok (rfl : see event s = (.ok (), told))]
      by_cases hlimit : l.limit = 0
      · rw [if_pos hlimit]
        exact .refl told
      rw [if_neg hlimit]
      -- the listener reacts, once less in the future, and is not quieter
      let l' : Listener := { l with limit := l.limit - 1 }
      let spent : Stage := { told with listeners := s.listeners.put name l' }
      show Goes told (runReactions inner action l.reactions spent).2
      refine Goes.trans (t := spent) (Quiet.goes ⟨rfl, ?_, rfl, rfl⟩)
        (runReactions_ongoing hinner action l.reactions spent)
      funext other
      show ((s.listeners.put name l').get? other).map Listener.quiet
        = (s.listeners.get? other).map Listener.quiet
      rw [Catalog.get?_put]
      by_cases hother : other = name
      · rw [if_pos hother, hother, hl]
        rfl
      · rw [if_neg hother]

/-- After `hear` for each of `names`, these are `Told`. -/
theorem forM_hear_tells (action : Action) (stray : Option Stray)
    (names : List String) :
    ∀ s, Told action names s (names.forM (hear inner action stray) s).2 := by
  induction names with
  | nil =>
      refine fun s => ⟨rfl, fun history hs =>
        ⟨[], [], history, ?_, ?_, .nil, hs⟩⟩
      · exact (List.append_nil _).symm
      · exact (List.append_nil _).symm
  | cons name rest ih =>
      intro s
      have hok : (hear inner action stray name s).1 = .ok () :=
        (hear_carries anyhow_carries (fun _ _ _ _ => trivial) action stray name
          trivial).1
      have hforM : ((name :: rest).forM (hear inner action stray) s).2
          = (rest.forM (hear inner action stray)
            (hear inner action stray name s).2).2 :=
        congrArg Prod.snd (bind_of_ok (Prod.ext hok rfl))
      obtain ⟨hears, htells⟩ := ih (hear inner action stray name s).2
      rw [hforM]
      rcases hear_cases hinner action stray name s
        with ⟨hdeaf, hstays⟩ | ⟨hhears, event, hevent, hgoes⟩
      · rw [hstays] at hears htells ⊢
        refine ⟨hears, fun history hs => ?_⟩
        obtain ⟨calls, heard, history', hj, he, htold, ht⟩ := htells history hs
        exact ⟨calls, heard, history', hj, he, .deaf hdeaf htold, ht⟩
      · refine ⟨hears.trans hgoes.ears, fun history hs => ?_⟩
        obtain ⟨calls, heard, history', hj, he, hruns, ht⟩ :=
          hgoes.runs history hs
        obtain ⟨others, more, history'', hj', he', htold, hu⟩ :=
          htells history' ht
        rw [hgoes.ears] at htold
        refine ⟨calls ++ others, (name, action) :: (heard ++ more), history'',
          ?_, ?_, .hears hhears hruns htold, hu⟩
        · rw [hj', hj, List.append_assoc]
        · have hone : Stage.heard { s with events := s.events ++ [event] }
              = s.heard ++ [(name, action)] := by
            unfold Stage.heard
            rw [List.filterMap_append, List.filterMap_cons_some hevent]
            rfl
          rw [he', he, hone, List.append_assoc, List.append_assoc]
          rfl

/-- After `dispatch`, the lineup of the action's kind is `Told`. -/
theorem dispatch_tells (action : Action) (stray : Option Stray) (s : Stage) :
    Told action (s.emitter.listeners action.kind) s
      (dispatch inner action stray s).2 :=
  forM_hear_tells hinner action stray _ s

-- ============================================================== operations

/-- In `handle`, listeners are told last, once a handler has run what it runs.
-/
theorem handle_sends (text intent : String) (s : Stage) :
    Sends ((handle inner text intent s).1.toOption.bind fun r => r.1.action)
      s (handle inner text intent s).2 := by
  have hback := (carryOut_backstage (s.engine.plan text intent)).ongoing s
  have htold : ∀ (reply : Outcome × Option Stray) (action : Action) stray
      (t : Stage), reply.1.action = some action →
      Sends (((dispatch inner action stray >>= fun _ => pure reply :
          Run (Outcome × Option Stray)) t).1.toOption.bind fun r => r.1.action)
        t ((dispatch inner action stray >>= fun _ => pure reply :
          Run (Outcome × Option Stray)) t).2 := by
    intro reply action stray t haction
    rw [bind_of_ok (Prod.ext (dispatch_ok inner action stray t) rfl)]
    show Sends reply.1.action t _
    rw [haction]
    exact .sends (.refl t) (dispatch_tells hinner action stray t)
      ⟨rfl, rfl, rfl, rfl⟩
  unfold handle
  rw [get_bind_apply]
  rcases hcarry : carryOut (s.engine.plan text intent) s
    with ⟨fault | ⟨step, stray⟩, t⟩
  · rw [hcarry] at hback
    rw [bind_of_error hcarry]
    exact .silent hback
  rw [hcarry] at hback
  rw [bind_of_ok hcarry]
  cases step with
  | settled outcome =>
      dsimp only
      cases haction : outcome.action with
      | none =>
          show Sends outcome.action s t
          rw [haction]
          exact .silent hback
      | some action =>
          have hforM : (some action).toList.forM
              (fun action => dispatch inner action stray)
              = dispatch inner action stray := bind_pure _
          rw [hforM]
          exact (htold (outcome, stray) action stray t haction).after hback
  | failed fault => exact .silent hback
  | capture hook a state =>
      have hhook := runHook_ongoing hinner text a hook t
      dsimp only
      rcases hrun : runHook inner text a hook t with ⟨fault | done, u⟩
      · rw [hrun] at hhook
        rw [bind_of_error hrun]
        exact .silent (hback.trans hhook)
      · rw [hrun] at hhook
        rw [bind_of_ok hrun, get_bind_apply]
        cases u.engine.captured state with
        | error fault => exact .silent (hback.trans hhook)
        | ok action =>
            exact (htold (.done action, none) action none u rfl).after
              (hback.trans hhook)

/-- The same for `process`. -/
theorem process_sends (text : String) (s : Stage) :
    Sends (sent? (.process text) (process inner text s).1) s
      (process inner text s).2 := by
  rcases process_cases inner text s
    with ⟨-, heq⟩ | ⟨-, -, heq⟩ | ⟨-, -, heq⟩
  · rw [heq]
    exact .silent (Quiet.goes ⟨rfl, rfl, rfl, rfl⟩)
  · rw [heq]
    have hsends := (handle_sends hinner (Text.trim text) Session.unknownIntent
      s.cleared).after (Quiet.goes ⟨rfl, rfl, rfl, rfl⟩ : Goes s s.cleared)
    unfold takeContent
    rcases hhandle : handle inner (Text.trim text) Session.unknownIntent
        s.cleared with ⟨fault | ⟨outcome, stray⟩, t⟩
    · rw [hhandle] at hsends
      rw [bind_of_error hhandle]
      exact hsends
    · rw [hhandle] at hsends
      rw [bind_of_ok hhandle]
      exact hsends
  · rw [heq]
    generalize s.classifier.classify (Text.trim text) = said
    have hasked : Quiet s (s.cleared.asked (Text.trim text)) :=
      ⟨rfl, rfl, rfl, rfl⟩
    have hsends := (handle_sends hinner (Text.trim text) said.intent
      (s.cleared.asked (Text.trim text))).after hasked.goes
    unfold takeSaid
    rcases hhandle : handle inner (Text.trim text) said.intent
        (s.cleared.asked (Text.trim text)) with ⟨fault | ⟨outcome, stray⟩, t⟩
    · rw [hhandle] at hsends
      rw [bind_of_error hhandle]
      exact hsends
    · rw [hhandle] at hsends
      rw [bind_of_ok hhandle]
      exact hsends.quiet ⟨rfl, rfl, rfl, rfl⟩

/-- Every operation is `Performed`, whatever runs within it. -/
theorem perform_performed (op : Operation) {s : Stage}
    (hjournal : s.journal = []) :
    Performed op (perform inner op s).1 s (perform inner op s).2 := by
  have hquiet : op.isOwn = true → op.isSubscription = false →
      op.isTold = false → sent? op (perform inner op s).1 = none →
      Performed op (perform inner op s).1 s (perform inner op s).2 := by
    intro hown hsub htold hsent
    have hback := (perform_backstage hown hsub htold).ongoing s
    rw [← perform_eq_deaf inner hown htold] at hback
    have hsends : Sends (sent? op (perform inner op s).1) s
        (perform inner op s).2 := by
      rw [hsent]
      exact .silent hback
    refine hsends.performed hsub ?_ hjournal
    rintro action rfl
    cases hown
  cases op with
  | handle text intent =>
      have hsends := handle_sends hinner text intent s
      refine Sends.performed ?_ rfl (fun _ hop => by cases hop) hjournal
      simp only [perform]
      rcases hhandle : handle inner text intent s with ⟨fault | r, t⟩
      · rw [hhandle] at hsends
        rw [bind_of_error hhandle]
        exact hsends
      · rw [hhandle] at hsends
        rw [bind_of_ok hhandle]
        exact hsends
  | process text =>
      exact (process_sends hinner text s).performed rfl
        (fun _ hop => by cases hop) hjournal
  | announce message =>
      refine Sends.performed ?_ rfl (fun _ hop => by cases hop) hjournal
      simp only [perform]
      rcases demand_cases (some message) s with hdemand |
        ⟨-, -, fault, hdemand⟩
      · rw [bind_of_ok hdemand, get_bind_apply,
          bind_of_ok (Prod.ext (dispatch_ok inner _ none s) rfl)]
        exact .sends (.refl s) (dispatch_tells hinner _ none s)
          ⟨rfl, rfl, rfl, rfl⟩
      · rw [bind_of_error hdemand]
        exact .silent (.refl s)
  | emit action =>
      have htold := dispatch_tells hinner action none s
      have hemit : perform inner (.emit action) s
          = (.ok .nothing, (dispatch inner action none s).2) :=
        bind_of_ok (Prod.ext (dispatch_ok inner action none s) rfl)
      rw [hemit]
      refine ⟨htold.ears, fun history found hs => ?_⟩
      obtain ⟨calls, heard, history', hj, he, htells, ht⟩ :=
        htold.tells history hs
      rw [hj, hjournal]
      exact ⟨heard, history', he,
        .sends rfl ⟨.nothing, rfl⟩ (fun _ => rfl) .nil (hs action.kind)
          htells,
        ht⟩
  | subscribe event listener =>
      exact changeEmitter_performed true (fun _ _ => rfl) rfl rfl hjournal
  | unsubscribe event listener =>
      exact changeEmitter_performed false (fun _ _ => rfl) rfl rfl hjournal
  | ask query =>
      refine Sends.performed ?_ rfl (fun _ hop => by cases hop) hjournal
      simp only [perform]
      rw [get_bind_apply]
      cases answer s query with
      | error fault => exact .silent (.refl s)
      | ok reply => exact .silent (.refl s)
  | _ => exact hquiet rfl rfl rfl rfl

end Within

-- ==================================================================== runs

/-- The journal has a call with the operation and its result at its end, which
`Performs`. -/
structure Journalled (op : Operation) (s : Stage)
    (r : Except Fault Reply × Stage) : Prop where
  ears : r.2.ears = s.ears
  performs : ∀ history, s.emitter.Keeps history →
    ∃ call heard history', call.operation = op ∧ call.result = r.1
      ∧ r.2.journal = s.journal ++ [call]
      ∧ r.2.heard = s.heard ++ heard
      ∧ Performs s.ears history call heard history'
      ∧ r.2.emitter.Keeps history'

theorem journalled_performs {inner : Operation → Run Reply}
    (hinner : ∀ op, Ongoing (inner op)) (op : Operation) (s : Stage) :
    Journalled op s (journalled (perform inner) op s) := by
  have hperform := perform_performed hinner op (s := s.afresh) rfl
  refine ⟨hperform.ears, fun history hs => ?_⟩
  obtain ⟨heard, history', he, hperforms, ht⟩ :=
    hperform.performs history s.engine hs
  exact ⟨_, heard, history', rfl, rfl, rfl, he, hperforms, ht⟩

/-- A call that is `Journalled` is one that `Goes` on. -/
theorem Journalled.goes {op : Operation} {s : Stage}
    {r : Except Fault Reply × Stage} (h : Journalled op s r) : Goes s r.2 := by
  refine ⟨h.ears, fun history hs => ?_⟩
  obtain ⟨call, heard, history', -, -, hj, he, hperforms, ht⟩ :=
    h.performs history hs
  refine ⟨[call], heard, history', hj, he, ?_, ht⟩
  rw [← List.append_nil heard]
  exact .cons hperforms .nil

/-- At every depth, `within` is `Ongoing`. -/
theorem within_ongoing (depth : Nat) : ∀ op, Ongoing (within depth op) := by
  induction depth with
  | zero => exact fun _ s => .refl s
  | succ depth ih =>
      intro op s
      show Goes s (runWithin depth op s).2
      rw [runWithin_eq]
      exact (journalled_performs ih op s).goes

theorem run_journalled (op : Operation) (s : Stage) :
    Journalled op s (run op s) := by
  unfold run
  rw [runWithin_eq]
  exact journalled_performs (within_ongoing _) op s

/-- Whatever operations are run, and whatever listeners and handlers run
within them, each action is told to those who stood with its kind when the
telling began, each once and in the order in which they stood; and those who
stand after it all are those of whom the history tells. -/
theorem runAll_performs (ops : List Operation) {s : Stage}
    {history : List Change} (hs : s.emitter.Keeps history) :
    ∃ calls heard history', (runAll ops s).2.journal = s.journal ++ calls
      ∧ calls.map Call.operation = ops
      ∧ calls.map Call.result = (runAll ops s).1
      ∧ (runAll ops s).2.heard = s.heard ++ heard
      ∧ Runs s.ears history calls heard history'
      ∧ (runAll ops s).2.emitter.Keeps history' := by
  induction ops generalizing s history with
  | nil =>
      refine ⟨[], [], history, ?_, rfl, rfl, ?_, .nil, hs⟩
      · exact (List.append_nil _).symm
      · exact (List.append_nil _).symm
  | cons op rest ih =>
      obtain ⟨hears, hperforms⟩ := run_journalled op s
      obtain ⟨call, heard, history', hop, hresult, hj, he, hfirst, ht⟩ :=
        hperforms history hs
      obtain ⟨calls, more, history'', hj', hops, hresults, he', hruns, hu⟩ :=
        ih ht
      rw [hears] at hruns
      refine ⟨call :: calls, heard ++ more, history'', ?_, ?_, ?_, ?_,
        .cons hfirst hruns, hu⟩
      · show (runAll rest (run op s).2).2.journal = _
        rw [hj', hj, List.append_assoc]
        rfl
      · rw [List.map_cons, hop, hops]
      · rw [List.map_cons, hresult, hresults]
        rfl
      · show (runAll rest (run op s).2).2.heard = _
        rw [he', he, List.append_assoc]

/-- A stage with three listeners, of whom the first two stand with messages.
When the first one is told, it sends the second one away, brings the third
one in, tells of a message itself, and raises. -/
def bustling : Stage where
  engine := {}
  emitter := (({} : Emitter).change ⟨.message, "first", true⟩).change
    ⟨.message, "second", true⟩
  listeners := .ofList [
    ("first", { reactions := [
      .operate (.unsubscribe "message" "second"),
      .operate (.subscribe "message" "third"),
      .operate (.emit (.message none "inner")),
      .fail "no more"] }),
    ("second", {}),
    ("third", {})]
  disk := { find := fun _ => .ok .device }

/-- On `bustling`, the second listener still hears of the message in answer to
which it was sent away, and the third one only of the message within. -/
theorem runAll_performs_bustling :
    let ops : List Operation := [.emit (.message none "outer")]
    ((runAll ops bustling).2.heard.map fun h => (h.1, h.2.messageText))
        = [("first", "outer"), ("first", "inner"), ("third", "inner"),
          ("second", "outer")]
      ∧ ∃ calls heard history', (runAll ops bustling).2.journal = calls
        ∧ (runAll ops bustling).2.heard = heard
        ∧ Runs bustling.ears
          [⟨.message, "first", true⟩, ⟨.message, "second", true⟩] calls heard
          history'
        ∧ (runAll ops bustling).2.emitter.Keeps history' := by
  intro ops
  have hkeeps : bustling.emitter.Keeps
      [⟨.message, "first", true⟩, ⟨.message, "second", true⟩] :=
    (Emitter.keeps_nothing.change ⟨.message, "first", true⟩).change
      ⟨.message, "second", true⟩
  obtain ⟨calls, heard, history', hj, -, -, he, hruns, ht⟩ :=
    runAll_performs ops hkeeps
  exact ⟨by decide +kernel, calls, heard, history', hj, he, hruns, ht⟩

end Colloquy.Script
