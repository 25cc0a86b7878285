/-
Two runs abreast. The same operations are run on two stages that differ at
most in the names of handlers that nobody registered, and in what was noted
down on the way. They go on abreast: every operation comes to the same on
both sides, up to what a classifier said of a text, and the stages go on to
differ in no more than that (`runAll_abreast`). What listeners hear is the
same, and so is every context.

# The relation

`Stage.Alike` compares two stages. Their outlines are equal, registries
pruned; what could be seen on them is alike, event by event; and the
conditions of the comparison hold: every handler in the table has a name
that is kept, and listeners and programs run only fair operations. A
`Regime` says which names are kept and which operations are fair. With every
name kept, pruning changes nothing, and stages that are alike have the same
engine.

`Abreast` compares two runs at two stages, result by result and stage by
stage. It has one rule for each way in which runs are put together, and then
one lemma for each piece of an operation.

# Inputs

An input leads both engines to the same (`plan_pruned`). The two sides may
well disagree on whether the active state takes every input as content; then
one side classifies a text and the other does not. Where that happens the
intent makes no difference, since the side that captures asks for none
(`plan_alike_of_isCapturing`). So the two inputs go on abreast even though
their intents differ.
-/
import Mathlib.Data.List.Forall2
import Colloquy.Proofs.Engine.Pruning
import Colloquy.Proofs.Script.Budget
import Colloquy.Proofs.Script.Telling

namespace Colloquy

namespace Script

variable {α β γ δ : Type}

-- =============================================================== regimes

/-- The operations among the instructions of a program. -/
def Program.runs (p : Program) : List Operation :=
  p.instructions.filterMap fun
    | .touch _ => none
    | .operate operation => some operation

/-- If the operation registers a handler, its name satisfies `keep` and the
operations of its program are `fair`. -/
def Operation.Suits (keep : String → Bool) (fair : Operation → Prop) :
    Operation → Prop
  | .registerHandler name program =>
    keep name = true ∧ ∀ op ∈ program.runs, fair op
  | _ => True

/-- Which names of handlers are kept (`keep`), and which operations listeners
and programs may run (`fair`). -/
structure Regime where
  keep : String → Bool
  fair : Operation → Prop
  suits : ∀ op, fair op → op.Suits keep fair

/-- The operations of every program on the stage are `fair`. -/
def Stage.Operates (fair : Operation → Prop) (s : Stage) : Prop :=
  ∀ p ∈ s.programs, ∀ op ∈ p.runs, fair op

-- ================================================================= alike

/-- Two results: the same fault, or values that are related by `R`. -/
inductive Outcomes (R : α → β → Prop) :
    Except Fault α → Except Fault β → Prop
  | ok {a : α} {b : β} (h : R a b) : Outcomes R (.ok a) (.ok b)
  | error (fault : Fault) : Outcomes R (.error fault) (.error fault)

theorem Outcomes.mono {R S : α → β → Prop} (hRS : ∀ a b, R a b → S a b)
    {x : Except Fault α} {y : Except Fault β} (h : Outcomes R x y) :
    Outcomes S x y := by
  cases h with
  | ok h => exact .ok (hRS _ _ h)
  | error fault => exact .error fault

/-- Replies that differ at most in the handlers of a record, where `keep` does
not hold of them, and in what a classifier said of a text. If both texts were
classified, or neither was, they do not differ in that. -/
inductive Reply.Alike (keep : String → Bool) : Reply → Reply → Prop
  | same (r : Reply) : Alike keep r r
  | turn {t t' : Session.Turn} (stray : Option Stray)
      (calls calls' : List String) (text : t.text = t'.text)
      (outcome : t.outcome = t'.outcome)
      (bypassed : t.bypassed = t'.bypassed → t = t') :
      Alike keep (.turn t stray calls) (.turn t' stray calls')
  | record {d d' : Definition} (h : d.pruned keep = d'.pruned keep) :
      Alike keep (.record (some (Record.write d)))
        (.record (some (Record.write d')))

/-- Events that are equal, or end operations within with replies that are
`Alike`. -/
inductive Event.Alike (keep : String → Bool) : Event → Event → Prop
  | same (event : Event) : Alike keep event event
  | nested {r r' : Except Fault Reply} (h : Outcomes (Reply.Alike keep) r r') :
      Alike keep (.nested r) (.nested r')

/-- The handle with its registry pruned. -/
def Handle.pruned (keep : String → Bool) : Handle → Handle
  | .apart r => .apart (r.pruned keep)
  | handle => handle

/-- The stage with its registries `pruned`, and with nothing noted down. -/
def Stage.outline (keep : String → Bool) (s : Stage) : Stage :=
  { s with
    engine := s.engine.pruned keep
    handle := s.handle.pruned keep
    calls := []
    entries := []
    events := []
    journal := [] }

/-- Stages with the same `outline` and with events that are `Alike`, the first
of which meets the conditions of the regime. -/
structure Stage.Alike (c : Regime) (s s' : Stage) : Prop where
  outline : s.outline c.keep = s'.outline c.keep
  events : List.Forall₂ (Event.Alike c.keep) s.events s'.events
  keeps : s.engine.Keeps c.keep
  reacts : s.Reacts c.fair
  operates : s.Operates c.fair

namespace Stage.Alike

variable {c : Regime} {s s' : Stage}

/-- A stage that meets the conditions of the regime is `Alike` to itself. -/
theorem refl (hkeeps : s.engine.Keeps c.keep) (hreacts : s.Reacts c.fair)
    (hoperates : s.Operates c.fair) : s.Alike c s :=
  ⟨rfl, List.forall₂_same.2 fun event _ => .same event, hkeeps, hreacts,
    hoperates⟩

theorem engine (h : s.Alike c s') :
    s.engine.pruned c.keep = s'.engine.pruned c.keep := by
  have := congrArg Stage.engine h.outline
  exact this

theorem registry (h : s.Alike c s') :
    s.engine.registry.pruned c.keep = s'.engine.registry.pruned c.keep := by
  have := congrArg Engine.registry h.engine
  exact this

theorem handlers (h : s.Alike c s') :
    s.engine.handlers = s'.engine.handlers := by
  have := congrArg Engine.handlers h.engine
  exact this

theorem active (h : s.Alike c s') : s.engine.active = s'.engine.active := by
  have := congrArg Engine.active h.engine
  exact this

theorem handle (h : s.Alike c s') :
    s.handle.pruned c.keep = s'.handle.pruned c.keep := by
  have := congrArg Stage.handle h.outline
  exact this

theorem emitter (h : s.Alike c s') : s.emitter = s'.emitter := by
  have := congrArg Stage.emitter h.outline
  exact this

theorem listeners (h : s.Alike c s') : s.listeners = s'.listeners := by
  have := congrArg Stage.listeners h.outline
  exact this

theorem programs (h : s.Alike c s') : s.programs = s'.programs := by
  have := congrArg Stage.programs h.outline
  exact this

theorem classifier (h : s.Alike c s') : s.classifier = s'.classifier := by
  have := congrArg Stage.classifier h.outline
  exact this

theorem disk (h : s.Alike c s') : s.disk = s'.disk := by
  have := congrArg Stage.disk h.outline
  exact this

theorem stray? (h : s.Alike c s') : s.stray? = s'.stray? := by
  have := congrArg Stage.stray? h.outline
  exact this

theorem context (h : s.Alike c s') : s.engine.context = s'.engine.context := by
  have := congrArg (fun t : Stage => t.engine.context) h.outline
  exact this

theorem draft (h : s.Alike c s') (serial : Nat) :
    s.draft serial = s'.draft serial := by
  have := congrArg (Stage.draft · serial) h.outline
  exact this

theorem budget (h : s.Alike c s') : s.budget = s'.budget := by
  have := congrArg Stage.budget h.outline
  exact this

/-- Stages stay `Alike` if their engines are replaced by engines that are equal
once `pruned`. -/
theorem withEngine (h : s.Alike c s') {e e' : Engine Hook}
    (he : e.pruned c.keep = e'.pruned c.keep) (hkeeps : e.Keeps c.keep) :
    ({ s with engine := e } : Stage).Alike c { s' with engine := e' } := by
  refine ⟨?_, h.events, hkeeps, h.reacts, h.operates⟩
  show ({ s.outline c.keep with engine := e.pruned c.keep } : Stage)
    = { s'.outline c.keep with engine := e'.pruned c.keep }
  rw [h.outline, he]

/-- Stages stay `Alike` if their registries are replaced by registries that are
equal once `pruned`. -/
theorem withRegistry (h : s.Alike c s') {r r' : Registry}
    (hr : r.pruned c.keep = r'.pruned c.keep) :
    ({ s with engine := { s.engine with registry := r } } : Stage).Alike c
      { s' with engine := { s'.engine with registry := r' } } := by
  refine h.withEngine ?_ h.keeps
  show ({ s.engine.pruned c.keep with registry := r.pruned c.keep } :
    Engine Hook)
    = { s'.engine.pruned c.keep with registry := r'.pruned c.keep }
  rw [h.engine, hr]

/-- Stages stay `Alike` if their handles are replaced by handles that are equal
once `pruned`. -/
theorem withHandle (h : s.Alike c s') {x x' : Handle}
    (hx : x.pruned c.keep = x'.pruned c.keep) :
    ({ s with handle := x } : Stage).Alike c { s' with handle := x' } := by
  refine ⟨?_, h.events, h.keeps, h.reacts, h.operates⟩
  show ({ s.outline c.keep with handle := x.pruned c.keep } : Stage)
    = { s'.outline c.keep with handle := x'.pruned c.keep }
  rw [h.outline, hx]

end Stage.Alike

-- =============================================================== abreast

/-- Run from `s` and `s'`, `m` and `m'` come to `Outcomes` related by `R`, and
leave stages that are `Alike`. -/
structure Abreast (c : Regime) (R : α → β → Prop) (m : Run α) (m' : Run β)
    (s s' : Stage) : Prop where
  outcome : Outcomes R (m s).1 (m' s').1
  stage : (m s).2.Alike c (m' s').2

section Rules

variable {c : Regime} {R : α → β → Prop} {S : γ → δ → Prop} {s s' : Stage}

theorem Abreast.pure {a : α} {b : β} (hR : R a b) (h : s.Alike c s') :
    Abreast c R (pure a) (pure b) s s' := ⟨.ok hR, h⟩

theorem Abreast.throw (fault : Fault) (h : s.Alike c s') :
    Abreast c R (throw fault) (throw fault) s s' := ⟨.error fault, h⟩

theorem Abreast.lift {x : Except Fault α} {y : Except Fault β}
    (hxy : Outcomes R x y) (h : s.Alike c s') :
    Abreast c R (liftExcept x) (liftExcept y) s s' := by
  cases hxy with
  | ok hR => exact .pure hR h
  | error fault => exact .throw fault h

theorem Abreast.bind {m : Run α} {m' : Run β} {k : α → Run γ}
    {k' : β → Run δ} (hm : Abreast c R m m' s s')
    (hk : ∀ a b t t', R a b → t.Alike c t' → Abreast c S (k a) (k' b) t t') :
    Abreast c S (m >>= k) (m' >>= k') s s' := by
  obtain ⟨houtcome, hstage⟩ := hm
  rcases hms : m s with ⟨x, t⟩
  rcases hms' : m' s' with ⟨x', t'⟩
  rw [hms, hms'] at houtcome hstage
  cases houtcome with
  | error fault =>
      constructor
      · rw [bind_of_error hms, bind_of_error hms']
        exact .error fault
      · rw [bind_of_error hms, bind_of_error hms']
        exact hstage
  | ok hR =>
      obtain ⟨houtcome', hstage'⟩ := hk _ _ t t' hR hstage
      constructor
      · rw [bind_of_ok hms, bind_of_ok hms']
        exact houtcome'
      · rw [bind_of_ok hms, bind_of_ok hms']
        exact hstage'

/-- Sequencing two runs with the same value on both sides. -/
theorem Abreast.bind_eq {m m' : Run α} {k : α → Run γ} {k' : α → Run δ}
    (hm : Abreast c Eq m m' s s')
    (hk : ∀ a t t', t.Alike c t' → Abreast c S (k a) (k' a) t t') :
    Abreast c S (m >>= k) (m' >>= k') s s' := by
  refine hm.bind fun a b t t' hab ht => ?_
  cases hab
  exact hk a t t' ht

/-- Sequencing after `get` on the left alone. -/
theorem Abreast.get_left {k : Stage → Run γ} {m' : Run δ}
    (h : Abreast c S (k s) m' s s') : Abreast c S (get >>= k) m' s s' :=
  ⟨h.outcome, h.stage⟩

/-- Sequencing after `get` on both sides. -/
theorem Abreast.get {k : Stage → Run γ} {k' : Stage → Run δ}
    (h : Abreast c S (k s) (k' s') s s') :
    Abreast c S (get >>= k) (get >>= k') s s' := ⟨h.outcome, h.stage⟩

theorem Abreast.modify {f f' : Stage → Stage} (h : (f s).Alike c (f' s')) :
    Abreast c Eq (modify f : Run Unit) (modify f') s s' := ⟨.ok rfl, h⟩

/-- What is `Abreast` is so with its fault as a result (`attempt`). -/
theorem Abreast.attempt {m : Run α} {m' : Run β}
    (h : Abreast c R m m' s s') :
    Abreast c (Outcomes R) (attempt m) (attempt m') s s' :=
  ⟨.ok h.outcome, h.stage⟩

theorem Abreast.forM {f f' : β → Run Unit}
    (hf : ∀ b s s', s.Alike c s' → Abreast c Eq (f b) (f' b) s s') :
    ∀ (bs : List β) (s s' : Stage), s.Alike c s' →
      Abreast c Eq (bs.forM f) (bs.forM f') s s' := by
  intro bs
  induction bs with
  | nil => exact fun s s' h => .pure rfl h
  | cons b rest ih =>
      exact fun s s' h => (hf b s s' h).bind_eq fun _ t t' ht => ih t t' ht

-- ========================================================= small changes

theorem note_abreast (entries entries' : List Log.Entry)
    (h : s.Alike c s') : Abreast c Eq (note entries) (note entries') s s' :=
  .modify ⟨h.outline, h.events, h.keeps, h.reacts, h.operates⟩

theorem see_abreast {event event' : Event}
    (hevent : Event.Alike c.keep event event') (h : s.Alike c s') :
    Abreast c Eq (see event) (see event') s s' :=
  .modify ⟨h.outline, List.rel_append h.events (.cons hevent .nil), h.keeps,
    h.reacts, h.operates⟩

theorem setEngine_abreast {e e' : Engine Hook}
    (he : e.pruned c.keep = e'.pruned c.keep) (hkeeps : e.Keeps c.keep)
    (h : s.Alike c s') : Abreast c Eq (setEngine e) (setEngine e') s s' :=
  .modify (h.withEngine he hkeeps)

theorem remember_alike (h : s.Alike c s') :
    s.remember.Alike c s'.remember := by
  refine ⟨?_, h.events, h.keeps, h.reacts, h.operates⟩
  show (s.outline c.keep).remember = (s'.outline c.keep).remember
  rw [h.outline]

theorem edit_abreast (serial : Nat) (change : Draft → Except Fault Draft)
    (h : s.Alike c s') :
    Abreast c Eq (edit serial change) (edit serial change) s s' := by
  refine .get ?_
  rw [h.draft serial]
  cases change (s'.draft serial) with
  | error fault => exact .throw fault h
  | ok draft =>
      refine .modify ⟨?_, h.events, h.keeps, h.reacts, h.operates⟩
      show (s.outline c.keep).write serial draft
        = (s'.outline c.keep).write serial draft
      rw [h.outline]

theorem demand_abreast (template : Option String) (h : s.Alike c s') :
    Abreast c Eq (demand template) (demand template) s s' := by
  refine .get ?_
  rw [h.stray?, h.context]
  cases s'.stray? with
  | none => exact .pure rfl h
  | some stray =>
      cases template with
      | none => exact .pure rfl h
      | some template =>
          dsimp only
          cases obstacle? stray s'.engine.context template with
          | none => exact .pure rfl h
          | some obstacle => exact .throw _ h

/-- Spending an operation of the program in a slot is `Abreast`. -/
theorem spend_abreast (slot : Nat) (h : s.Alike c s') :
    Abreast c Eq (spend slot) (spend slot) s s' := by
  refine .get ?_
  rw [h.programs]
  cases hp : s'.programs[slot]? with
  | none => exact .pure rfl h
  | some p =>
      by_cases hlimit : p.limit = 0
      · simp only [if_pos hlimit]
        exact .pure rfl h
      · simp only [if_neg hlimit]
        refine ⟨.ok rfl, ?_, h.events, h.keeps, h.reacts, ?_⟩
        · show ({ s.outline c.keep with
              programs := s'.programs.set slot p.spend } : Stage)
            = { s'.outline c.keep with
                programs := s'.programs.set slot p.spend }
          rw [h.outline]
        · intro q hq
          have hspend : p.spend.runs = p.runs := by
            obtain ⟨instructions, limit⟩ := p
            rfl
          have hfair := h.operates
          rw [Stage.Operates, h.programs] at hfair
          rcases List.mem_or_eq_of_mem_set hq with hq | rfl
          · exact hfair q hq
          · rw [hspend]
            exact hfair p (List.mem_of_getElem? hp)

/-- To be `Abreast` on stages that are `Alike` is a `Law`. -/
theorem abreast_law : Law fun m m' =>
    ∀ s s', s.Alike c s' → Abreast c Eq m m' s s' where
  nothing := fun _ _ h => .pure rfl h
  andThen := fun hm hk s s' h =>
    (hm s s' h).bind_eq fun _ t t' ht => hk t t' ht
  look := fun _ hsees hk s s' h => by
    refine .get ?_
    rw [hsees s' s h.programs.symm]
    exact hk s s s' h

end Rules

-- ====================================================== what nests within

section Within

variable {c : Regime} {inner inner' : Operation → Run Reply}
  (hinner : ∀ op s s', c.fair op → s.Alike c s' →
    Abreast c (Reply.Alike c.keep) (inner op) (inner' op) s s')
include hinner

/-- If a fair operation within is run on both sides and its end is seen, what
follows may rely on replies that are `Alike`. -/
theorem nested_abreast {op : Operation} (hop : c.fair op)
    {k k' : Except Fault Reply → Run Unit} {s s' : Stage} (h : s.Alike c s')
    (hk : ∀ r r' t t', Outcomes (Reply.Alike c.keep) r r' → t.Alike c t' →
      Abreast c Eq (k r) (k' r') t t') :
    Abreast c Eq
      (attempt (inner op) >>= fun r => see (.nested r) >>= fun _ => k r)
      (attempt (inner' op) >>= fun r => see (.nested r) >>= fun _ => k' r)
      s s' := by
  refine (hinner op s s' hop h).attempt.bind fun r r' t t' hr ht => ?_
  exact (see_abreast (.nested hr) ht).bind_eq fun _ u u' hu =>
    hk r r' u u' hr hu

theorem runReactions_abreast (action : Action) :
    ∀ (reactions : List Reaction) (s s' : Stage),
      (∀ r ∈ reactions, ∀ op ∈ r.runs, c.fair op) → s.Alike c s' →
      Abreast c Eq (runReactions inner action reactions)
        (runReactions inner' action reactions) s s' := by
  intro reactions
  induction reactions with
  | nil => exact fun s s' _ h => .pure rfl h
  | cons reaction rest ih =>
      intro s s' hfair h
      have hfirst := hfair reaction (List.mem_cons_self ..)
      have hrest : ∀ t t', t.Alike c t' →
          Abreast c Eq (runReactions inner action rest)
            (runReactions inner' action rest) t t' := fun t t' ht =>
        ih t t' (fun r hr => hfair r (List.mem_cons_of_mem _ hr)) ht
      cases reaction with
      | fail message => exact note_abreast _ _ h
      | operate operation =>
          have hop := hfirst operation (List.mem_singleton.2 rfl)
          simp only [runReactions]
          exact nested_abreast hinner hop h fun _ _ t t' _ ht => hrest t t' ht
      | insist operation wording =>
          have hop := hfirst operation (List.mem_singleton.2 rfl)
          simp only [runReactions]
          refine nested_abreast hinner hop h fun r r' t t' hr ht => ?_
          cases hr with
          | ok _ => exact hrest t t' ht
          | error fault => exact note_abreast _ _ ht

theorem hear_abreast (action : Action) (stray : Option Stray)
    (name : String) (s s' : Stage) (h : s.Alike c s') :
    Abreast c Eq (hear inner action stray name)
      (hear inner' action stray name) s s' := by
  refine .get ?_
  rw [← h.listeners]
  cases hl : s.listeners.get? name with
  | none => exact .pure rfl h
  | some l =>
      have hplace : s.engine.workflow? = s'.engine.workflow?
          ∧ s.engine.stateKey? = s'.engine.stateKey? := by
        unfold Engine.workflow? Engine.stateKey?
        rw [h.active]
        exact ⟨rfl, rfl⟩
      by_cases hquiet : l.quiet = true
      · simp only [if_pos hquiet]
        exact .pure rfl h
      simp only [if_neg hquiet]
      rw [hplace.1, hplace.2]
      refine (see_abreast (.same _) h).bind_eq fun _ t t' ht => ?_
      by_cases hlimit : l.limit = 0
      · simp only [if_pos hlimit]
        exact .pure rfl ht
      simp only [if_neg hlimit]
      have hreactions := h.reacts l (Catalog.mem_values_of_get? hl)
      refine Abreast.bind_eq (.modify ⟨?_, ht.events, ht.keeps, ?_,
        ht.operates⟩) fun _ u u' hu =>
          runReactions_abreast hinner action l.reactions u u' hreactions hu
      · show ({ t.outline c.keep with
            listeners := t.listeners.put name { l with limit := l.limit - 1 } }
              : Stage)
          = { t'.outline c.keep with
              listeners := t'.listeners.put name
                { l with limit := l.limit - 1 } }
        rw [ht.outline, ht.listeners]
      · intro l' hl'
        rcases Catalog.mem_values_put hl' with rfl | hl'
        · exact hreactions
        · exact ht.reacts l' hl'

/-- With inner runs that are `Abreast`, so is `dispatch`. -/
theorem dispatch_abreast (action : Action) (stray : Option Stray)
    (s s' : Stage) (h : s.Alike c s') :
    Abreast c Eq (dispatch inner action stray) (dispatch inner' action stray)
      s s' := by
  refine .get ?_
  rw [h.emitter]
  exact .forM (hear_abreast hinner action stray) _ s s' h

-- ============================================================== handlers

theorem runInstructions_abreast (text : String) (serial slot : Nat)
    {instructions : List Instruction}
    (hfair : ∀ op, .operate op ∈ instructions → c.fair op) {s s' : Stage}
    (h : s.Alike c s') :
    Abreast c Eq (runInstructions inner text serial slot instructions)
      (runInstructions inner' text serial slot instructions) s s' := by
  refine abreast_law.runInstructions inner inner'
    (fun change _ _ _ h => edit_abreast serial (change text) h)
    (fun op hop t t' ht => ?_) s s' h
  refine (spend_abreast slot ht).bind_eq fun may u u' hu => ?_
  cases may with
  | false => exact .pure rfl hu
  | true =>
      exact nested_abreast hinner (hfair op hop) hu
        fun _ _ _ _ _ hv => .pure rfl hv

/-- With inner runs that are `Abreast`, so is `runHook`. -/
theorem runHook_abreast (text : String) (a : Activation) (hook : Hook)
    (s s' : Stage) (h : s.Alike c s') :
    Abreast c Eq (runHook inner text a hook) (runHook inner' text a hook)
      s s' := by
  cases hook with
  | plain handler =>
      unfold runHook
      exact edit_abreast a.serial _ h
  | program slot =>
      refine .get ?_
      rw [← h.programs]
      cases hp : s.programs[slot]? with
      | none => exact .pure rfl h
      | some p =>
          have hfair := h.operates p (List.mem_of_getElem? hp)
          refine runInstructions_abreast hinner text a.serial slot
            (fun op hop => hfair op ?_) h
          exact List.mem_filterMap.2 ⟨_, hop, rfl⟩

end Within

end Script
end Colloquy
