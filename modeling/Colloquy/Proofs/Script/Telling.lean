/-
Telling, whatever it is told for. Listeners are told of an action one after
another, each reacts with operations one after another, and in between
nothing happens but that things are seen, are noted down, or use up a
reaction. So whatever way leads from stage to stage along every operation
that listeners run, and along such small changes, leads along the telling
as a whole (`dispatch_carries`, `tell_carries`); and the telling never
fails.

A way is a relation between stages. It leads from a stage to itself just
where it may go on at all, so the stages that are good for it need no
predicate of their own.
-/
import Colloquy.Proofs.Script.Settling

namespace Colloquy.Script

/-- The operation of a reaction, if it has one. -/
def Reaction.runs : Reaction → List Operation
  | .operate operation | .insist operation _ => [operation]
  | .fail _ => []

/-- Every operation that a listener on the stage runs is `fair`. -/
def Stage.Reacts (fair : Operation → Prop) (s : Stage) : Prop :=
  ∀ l ∈ s.listeners.values, ∀ r ∈ l.reactions, ∀ op ∈ r.runs, fair op

/-- What a relation from stage to stage needs to hold along what listeners do:
it composes, the stages that it relates to themselves have listeners that react
with `fair` operations, and it depends on a stage `alone`, its listeners and
its journal only. -/
structure Carries (R : Stage → Stage → Prop) (fair : Operation → Prop) :
    Prop where
  trans : ∀ {s t u}, R s t → R t u → R s u
  good : ∀ {s t}, R s t → R t t
  reacts : ∀ {s}, R s s → s.Reacts fair
  aside : ∀ {s t}, R s s → t.Reacts fair → s.alone = t.alone →
    t.journal = s.journal → R s t

/-- Between stages that are equal `alone`, with the same journal and listeners,
`R` holds. -/
theorem Carries.quiet {R : Stage → Stage → Prop} {fair : Operation → Prop}
    (hR : Carries R fair) {s t : Stage} (hs : R s s)
    (halone : s.alone = t.alone) (hjournal : t.journal = s.journal)
    (hlisteners : t.listeners = s.listeners) : R s t := by
  refine hR.aside hs ?_ halone hjournal
  unfold Stage.Reacts
  rw [hlisteners]
  exact hR.reacts hs

/-- Giving a listener another `limit` does not change what it `runs`. -/
theorem Stage.Reacts.put {fair : Operation → Prop} {s t : Stage}
    (hs : s.Reacts fair) {name : String} {l : Listener} {limit : Nat}
    (hl : s.listeners.get? name = some l)
    (ht : t.listeners = s.listeners.put name { l with limit }) :
    t.Reacts fair := by
  intro l' hl'
  rw [ht] at hl'
  rcases Catalog.mem_values_put hl' with rfl | hl'
  · exact hs l (Catalog.mem_values_of_get? hl)
  · exact hs l' hl'

section

variable {R : Stage → Stage → Prop} {fair : Operation → Prop}
  (hR : Carries R fair) {inner : Operation → Run Reply}
  (hinner : ∀ op s, fair op → R s s → R s (inner op s).2)

include hR in
/-- If `f` cannot fail and carries `R`, so does `forM f`. -/
theorem forM_carries {β : Type} {f : β → Run Unit}
    (hf : ∀ b s, R s s → (f b s).1 = .ok () ∧ R s (f b s).2) :
    ∀ (bs : List β) (s : Stage), R s s →
      (bs.forM f s).1 = .ok () ∧ R s (bs.forM f s).2 := by
  intro bs
  induction bs with
  | nil => exact fun s hs => ⟨rfl, hs⟩
  | cons b rest ih =>
      intro s hs
      obtain ⟨hok, hfirst⟩ := hf b s hs
      obtain ⟨hok', hrest⟩ := ih _ (hR.good hfirst)
      show ((f b >>= fun _ => rest.forM f) s).1 = .ok ()
        ∧ R s ((f b >>= fun _ => rest.forM f) s).2
      rw [bind_of_ok (Prod.ext hok rfl)]
      exact ⟨hok', hR.trans hfirst hrest⟩

include hR hinner

/-- A fair operation within, of which the end is seen, carries `R`. -/
theorem nested_carries {op : Operation} (hop : fair op) {s : Stage}
    (hs : R s s) :
    ∃ t, see (.nested (inner op s).1) (inner op s).2 = (.ok (), t)
      ∧ R s t := by
  have hstep := hinner op s hop hs
  exact ⟨_, rfl, hR.trans hstep (hR.quiet (hR.good hstep) rfl rfl rfl)⟩

/-- Reactions carry `R` and do not fail: a failure of the listener's own is
noted down. -/
theorem runReactions_carries (action : Action) :
    ∀ (reactions : List Reaction) (s : Stage),
      (∀ r ∈ reactions, ∀ op ∈ r.runs, fair op) → R s s →
      (runReactions inner action reactions s).1 = .ok ()
        ∧ R s (runReactions inner action reactions s).2 := by
  intro reactions
  induction reactions with
  | nil => exact fun s _ hs => ⟨rfl, hs⟩
  | cons reaction rest ih =>
      intro s hfair hs
      have hrest : ∀ r ∈ rest, ∀ op ∈ r.runs, fair op := fun r hr =>
        hfair r (List.mem_cons_of_mem _ hr)
      have hfirst := hfair reaction (List.mem_cons_self ..)
      have hattempt : ∀ operation, attempt (inner operation) s
          = (.ok (inner operation s).1, (inner operation s).2) :=
        fun _ => rfl
      cases reaction with
      | fail message => exact ⟨rfl, hR.quiet hs rfl rfl rfl⟩
      | operate operation =>
          obtain ⟨t, hsee, ht⟩ := nested_carries hR hinner
            (hfirst operation (List.mem_singleton.2 rfl)) hs
          obtain ⟨hok, hgoes⟩ := ih t hrest (hR.good ht)
          simp only [runReactions]
          rw [bind_of_ok (hattempt operation), bind_of_ok hsee]
          exact ⟨hok, hR.trans ht hgoes⟩
      | insist operation wording =>
          obtain ⟨t, hsee, ht⟩ := nested_carries hR hinner
            (hfirst operation (List.mem_singleton.2 rfl)) hs
          simp only [runReactions]
          rw [bind_of_ok (hattempt operation), bind_of_ok hsee]
          cases (inner operation s).1 with
          | error fault =>
              exact ⟨rfl, hR.trans ht (hR.quiet (hR.good ht) rfl rfl rfl)⟩
          | ok reply =>
              obtain ⟨hok, hgoes⟩ := ih t hrest (hR.good ht)
              exact ⟨hok, hR.trans ht hgoes⟩

/-- The same for `hear`. -/
theorem hear_carries (action : Action) (stray : Option Stray)
    (name : String) {s : Stage} (hs : R s s) :
    (hear inner action stray name s).1 = .ok ()
      ∧ R s (hear inner action stray name s).2 := by
  unfold hear
  rw [get_bind_apply]
  cases hl : s.listeners.get? name with
  | none => exact ⟨rfl, hs⟩
  | some l =>
      have hreactions := hR.reacts hs l (Catalog.mem_values_of_get? hl)
      by_cases hquiet : l.quiet = true
      · simp only [if_pos hquiet]
        exact ⟨rfl, hs⟩
      let heard : Stage := { s with
        events := s.events ++ [.heard name action stray s.engine.workflow?
          s.engine.stateKey?] }
      have hheard : R s heard := hR.quiet hs rfl rfl rfl
      simp only [if_neg hquiet]
      rw [bind_of_ok (rfl : see _ s = (.ok (), heard))]
      by_cases hlimit : l.limit = 0
      · simp only [if_pos hlimit]
        exact ⟨rfl, hheard⟩
      simp only [if_neg hlimit]
      -- the listener reacts, once less in the future
      let spent : Stage := { heard with
        listeners := s.listeners.put name { l with limit := l.limit - 1 } }
      have hspent : R heard spent :=
        hR.aside (hR.good hheard) (Stage.Reacts.put (hR.reacts hs) hl rfl)
          rfl rfl
      obtain ⟨hok, hgoes⟩ := runReactions_carries hR hinner action l.reactions
        spent hreactions (hR.good hspent)
      exact ⟨hok, hR.trans hheard (hR.trans hspent hgoes)⟩

/-- The same for `dispatch`. -/
theorem dispatch_carries (action : Action) (stray : Option Stray)
    {s : Stage} (hs : R s s) :
    (dispatch inner action stray s).1 = .ok ()
      ∧ R s (dispatch inner action stray s).2 :=
  forM_carries hR (fun name _ => hear_carries hR hinner action stray name)
    (s.emitter.listeners action.kind) s hs

/-- The same for `tell`. -/
theorem tell_carries (news : List News) {s : Stage} (hs : R s s) :
    (tell inner news s).1 = .ok () ∧ R s (tell inner news s).2 :=
  forM_carries hR (fun item _ => dispatch_carries hR hinner item.1 item.2)
    news s hs

end

end Colloquy.Script
