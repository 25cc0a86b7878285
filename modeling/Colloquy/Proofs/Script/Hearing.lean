/-
What listeners hear. Listeners that run no operations of their own do
nothing but hear: told of an action, each one that has subscribed to its
kind, that there is and that is not quiet hears of it once, in the order
of the subscriptions, and the engine stays as it is (`dispatch_heard`).
Whether a listener raises, and whether it still reacts, plays no part.

So a run of an operation is its settling and then the hearings of its news
(`run_settles`, `run_heard`).
-/
import Colloquy.Proofs.Script.Budget
import Colloquy.Proofs.Script.Running

namespace Colloquy.Script

-- ============================================================== hearings

/-- Whether there is a listener `name` that is not quiet. -/
def Stage.hears (s : Stage) (name : String) : Bool :=
  (s.listeners.get? name).any fun l => !l.quiet

/-- The event when the listener `name` is told the news, if it `hears`. -/
def Stage.hearing (s : Stage) (news : News) (name : String) : List Event :=
  if s.hears name then
    [.heard name news.1 news.2 s.engine.workflow? s.engine.stateKey?]
  else []

/-- The events when the listeners subscribed to the kind of the news are told
it, in order. -/
def Stage.hearings (s : Stage) (news : News) : List Event :=
  (s.emitter.listeners news.1.kind).flatMap (s.hearing news)

/-- Whether none of the listener's reactions runs an operation. -/
def Listener.isPassive (l : Listener) : Bool :=
  l.reactions.all fun
    | .fail _ => true
    | .operate _ | .insist .. => false

/-- Every listener on the stage `isPassive`. -/
def Stage.Passive (s : Stage) : Prop :=
  ∀ l ∈ s.listeners.values, l.isPassive = true

/-- From `s` to `t` nothing changed but that `events` were added, and that
listeners may have reacted. -/
structure Heard (s t : Stage) (events : List Event) : Prop where
  alone : t.alone = s.alone
  emitter : t.emitter = s.emitter
  hears : ∀ name, t.hears name = s.hears name
  passive : t.Passive
  calls : t.calls = s.calls
  events : t.events = s.events ++ events

theorem Heard.refl {s : Stage} (hs : s.Passive) : Heard s s [] :=
  ⟨rfl, rfl, fun _ => rfl, hs, rfl, (List.append_nil _).symm⟩

theorem Heard.trans {s t u : Stage} {events more : List Event}
    (h : Heard s t events) (h' : Heard t u more) :
    Heard s u (events ++ more) where
  alone := h'.alone.trans h.alone
  emitter := h'.emitter.trans h.emitter
  hears name := (h'.hears name).trans (h.hears name)
  passive := h'.passive
  calls := h'.calls.trans h.calls
  events := by rw [h'.events, h.events, List.append_assoc]

/-- What `hearing` gives depends on who `hears` and on the running activation.
-/
theorem Stage.hearing_congr {s t : Stage}
    (hhears : ∀ name, t.hears name = s.hears name)
    (hactive : t.engine.active = s.engine.active) (news : News)
    (name : String) : t.hearing news name = s.hearing news name := by
  unfold Stage.hearing Engine.workflow? Engine.stateKey?
  rw [hhears, hactive]

theorem Stage.hearings_congr {s t : Stage} (hemitter : t.emitter = s.emitter)
    (hhears : ∀ name, t.hears name = s.hears name)
    (hactive : t.engine.active = s.engine.active) :
    t.hearings = s.hearings := by
  funext news
  unfold Stage.hearings
  rw [hemitter]
  exact congrArg (fun f => List.flatMap f _)
    (funext (Stage.hearing_congr hhears hactive news))

/-- Between stages related by `Heard`, `hearing` is the same. -/
theorem Heard.hearing_eq {s t : Stage} {events : List Event}
    (h : Heard s t events) (news : News) (name : String) :
    t.hearing news name = s.hearing news name :=
  Stage.hearing_congr h.hears
    (congrArg Engine.active (Stage.engine_eq_of_alone h.alone)) news name

theorem Heard.hearings_eq {s t : Stage} {events : List Event}
    (h : Heard s t events) : t.hearings = s.hearings :=
  Stage.hearings_congr h.emitter h.hears
    (congrArg Engine.active (Stage.engine_eq_of_alone h.alone))

/-- If each item adds the events that `seen` says, `forM` adds those of all
items. -/
theorem forM_heard {β : Type} {f : β → Run Unit}
    {seen : Stage → β → List Event}
    (hf : ∀ b s, s.Passive → ∃ t, f b s = (.ok (), t) ∧ Heard s t (seen s b))
    (hseen : ∀ {s t events}, Heard s t events → ∀ b, seen t b = seen s b) :
    ∀ (bs : List β) (s : Stage), s.Passive →
      ∃ t, bs.forM f s = (.ok (), t) ∧ Heard s t (bs.flatMap (seen s)) := by
  intro bs
  induction bs with
  | nil => exact fun s hs => ⟨s, rfl, .refl hs⟩
  | cons b rest ih =>
      intro s hs
      obtain ⟨t, hb, hst⟩ := hf b s hs
      obtain ⟨u, hrest, htu⟩ := ih t hst.passive
      refine ⟨u, ?_, ?_⟩
      · show (f b >>= fun _ => rest.forM f) s = _
        rw [bind_of_ok hb, hrest]
      · rw [List.flatMap_cons]
        rw [show seen t = seen s from funext (hseen hst)] at htu
        exact hst.trans htu

variable (inner : Operation → Run Reply)

/-- The reactions of a listener that `isPassive` do nothing, or raise. -/
theorem runReactions_heard (action : Action) {l : Listener}
    (hl : l.isPassive = true) {s : Stage} (hs : s.Passive) :
    ∃ t, runReactions inner action l.reactions s = (.ok (), t)
      ∧ Heard s t [] := by
  unfold Listener.isPassive at hl
  cases hreactions : l.reactions with
  | nil => exact ⟨s, rfl, .refl hs⟩
  | cons reaction rest =>
      rw [hreactions, List.all_cons, Bool.and_eq_true] at hl
      cases reaction with
      | fail message =>
          exact ⟨_, rfl, rfl, rfl, fun _ => rfl, hs, rfl,
            (List.append_nil _).symm⟩
      | operate operation => exact absurd hl.1 Bool.false_ne_true
      | insist operation wording => exact absurd hl.1 Bool.false_ne_true

/-- On a `Passive` stage, `hear` adds the event of `hearing`. -/
theorem hear_heard (news : News) (name : String) {s : Stage}
    (hs : s.Passive) :
    ∃ t, hear inner news.1 news.2 name s = (.ok (), t)
      ∧ Heard s t (s.hearing news name) := by
  unfold hear
  rw [get_bind_apply]
  cases hl : s.listeners.get? name with
  | none =>
      have hnone : s.hearing news name = [] := by
        rw [Stage.hearing, Stage.hears, hl]
        rfl
      rw [hnone]
      exact ⟨s, rfl, .refl hs⟩
  | some l =>
      have hpassive : l.isPassive = true :=
        hs l (Catalog.mem_values_of_get? hl)
      by_cases hquiet : l.quiet = true
      · have hnone : s.hearing news name = [] := by
          rw [Stage.hearing, Stage.hears, hl, Option.any_some, hquiet]
          rfl
        simp only [if_pos hquiet, hnone]
        exact ⟨s, rfl, .refl hs⟩
      let event : Event := .heard name news.1 news.2 s.engine.workflow?
        s.engine.stateKey?
      have hone : s.hearing news name = [event] := by
        rw [Stage.hearing, Stage.hears, hl, Option.any_some,
          Bool.eq_false_iff.2 hquiet]
        rfl
      simp only [if_neg hquiet, hone]
      let heard : Stage := { s with events := s.events ++ [event] }
      have hheard : Heard s heard [event] :=
        ⟨rfl, rfl, fun _ => rfl, hs, rfl, rfl⟩
      rw [bind_of_ok (rfl : see event s = (.ok (), heard))]
      by_cases hlimit : l.limit = 0
      · simp only [if_pos hlimit]
        exact ⟨heard, rfl, hheard⟩
      simp only [if_neg hlimit]
      let l' : Listener := { l with limit := l.limit - 1 }
      let spent : Stage := { heard with listeners := s.listeners.put name l' }
      have hspent : Heard heard spent [] := by
        refine ⟨rfl, rfl, fun other => ?_, fun k hk => ?_, rfl,
          (List.append_nil _).symm⟩
        · show ((s.listeners.put name l').get? other).any (fun k => !k.quiet)
            = (s.listeners.get? other).any fun k => !k.quiet
          rw [Catalog.get?_put]
          by_cases hother : other = name
          · rw [if_pos hother, hother, hl]
            rfl
          · rw [if_neg hother]
        · rcases Catalog.mem_values_put hk with rfl | hk
          · exact hpassive
          · exact hs k hk
      obtain ⟨t, hreact, ht⟩ :=
        runReactions_heard inner news.1 hpassive hspent.passive
      refine ⟨t, hreact, ?_⟩
      exact hheard.trans (hspent.trans ht)

/-- On a `Passive` stage, `dispatch` adds the events of `hearings`. -/
theorem dispatch_heard (news : News) {s : Stage} (hs : s.Passive) :
    ∃ t, dispatch inner news.1 news.2 s = (.ok (), t)
      ∧ Heard s t (s.hearings news) :=
  forM_heard (fun name _ hs => hear_heard inner news name hs)
    (fun h name => h.hearing_eq news name) _ s hs

/-- On a `Passive` stage, `tell` adds the events of `hearings`, for each of the
news. -/
theorem tell_heard (news : List News) {s : Stage} (hs : s.Passive) :
    ∃ t, tell inner news s = (.ok (), t)
      ∧ Heard s t (news.flatMap s.hearings) :=
  forM_heard (fun item _ hs => dispatch_heard inner item hs)
    (fun h item => congrFun h.hearings_eq item) news s hs

-- ================================================================= runs

/-- On a `Passive` stage, `run` is `settle`, which leaves the audience as it
is, and then `tell`. -/
theorem run_settles {op : Operation} {s : Stage} (hop : op.isDirect = true)
    (hsub : op.isSubscription = false) (hkeeps : s.KeepsToContexts)
    (hs : s.Passive) :
    (run op s).1 = (settle op s).1.map Prod.fst
      ∧ ∃ t : Stage, t.alone = (settle op s).2.alone
        ∧ t.audience = { s.audience with journal := [] }
        ∧ Heard t (run op s).2 ((newsOf op s).flatMap t.hearings) := by
  let blank : Stage := { s with journal := [] }
  have hback := settle_backstage hop hsub
  obtain ⟨hfst, hsnd⟩ := hback.congr (show blank.alone = s.alone from rfl)
  have hframe := hback.frame blank
  have hnews : newsOf op blank = newsOf op s := by
    rw [newsOf, newsOf, hfst]
  have hpassive : (settle op blank).2.Passive := by
    unfold Stage.Passive
    rw [show (settle op blank).2.listeners = s.listeners from
      congrArg Audience.listeners hframe]
    exact hs
  obtain ⟨hresult, htell⟩ :=
    perform_settles run hop (show blank.KeepsToContexts from hkeeps)
      fun news => by
        obtain ⟨t, ht, -⟩ := tell_heard run news hpassive
        rw [ht]
  obtain ⟨t, ht, hheard⟩ := tell_heard run (newsOf op blank) hpassive
  have hstage : (perform run op blank).2 = t :=
    congrArg Prod.snd (htell.symm.trans ht)
  rw [hnews] at hheard
  refine ⟨?_, (settle op blank).2, hsnd, hframe, ?_⟩
  · rw [run_eq]
    show (perform run op blank).1 = _
    rw [hresult, hfst]
  · have hnoted : Heard t (run op s).2 [] := by
      rw [run_eq, ← hstage]
      refine ⟨rfl, rfl, fun _ => rfl, ?_, rfl, (List.append_nil _).symm⟩
      show (perform run op blank).2.Passive
      rw [hstage]
      exact hheard.passive
    have hboth := hheard.trans hnoted
    rw [List.append_nil] at hboth
    exact hboth

/-- What `run` leaves on a `Passive` stage: the result and the stage `alone` of
`settle`, and the events of `hearings`. -/
theorem run_heard {op : Operation} {s : Stage} (hop : op.isDirect = true)
    (hsub : op.isSubscription = false) (hkeeps : s.KeepsToContexts)
    (hs : s.Passive) :
    (run op s).1 = (settle op s).1.map Prod.fst
      ∧ (run op s).2.alone = (settle op s).2.alone
      ∧ (run op s).2.Passive
      ∧ (run op s).2.events
        = s.events ++ (newsOf op s).flatMap (run op s).2.hearings := by
  obtain ⟨hresult, t, halone, haudience, hheard⟩ :=
    run_settles hop hsub hkeeps hs
  have hevents : t.events = s.events := congrArg Audience.events haudience
  refine ⟨hresult, hheard.alone.trans halone, hheard.passive, ?_⟩
  rw [hheard.events, hheard.hearings_eq, hevents]

/-- A subscription changes the emitter and the journal, and nothing else. -/
theorem run_subscription {op : Operation} (hsub : op.isSubscription = true)
    (s : Stage) :
    ∃ emitter journal, (run op s).2 = { s with emitter, journal } := by
  obtain ⟨m, hm⟩ := perform_subscription run op hsub { s with journal := [] }
  have hrun : (run op s).2
      = { (perform run op { s with journal := [] }).2 with
          journal := (run op s).2.journal } := by
    rw [run_eq]
    rfl
  refine ⟨m, (run op s).2.journal, hrun.trans ?_⟩
  rw [hm]

end Colloquy.Script
