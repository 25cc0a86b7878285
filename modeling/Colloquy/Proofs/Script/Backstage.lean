/-
What goes on backstage: the part of a run that no listener can see or
touch. The engine, its programs and the contexts they write are one part
of a stage; the listeners, their subscriptions and what was noted down are
the other. `Stage.alone` keeps the first part and empties the second.

A run that goes on backstage comes to the same and leaves the same engine
whether anyone listens or not, and it neither tells a listener anything
nor writes into the journal (`Backstage`). If it also leaves the running
workflow alone, it goes on aside (`Aside`): the loads and registrations
do. Both are read off the text of a run, one rule for each way in which
runs are put together.
-/
import Colloquy.Proofs.Script.Laws

namespace Colloquy.Script

variable {α β : Type}

-- ========================================================= the two parts

/-- The stage without its `audience` and without what was noted down. -/
def Stage.alone (s : Stage) : Stage :=
  { s with
    emitter := {}
    listeners := .empty
    calls := []
    entries := []
    events := []
    journal := [] }

/-- What `alone` leaves out, entries aside: the emitter and the listeners, what
they and the journal have been told, and the texts that were classified. -/
structure Audience where
  emitter : Emitter
  listeners : Catalog Listener
  events : List Event
  journal : List Call
  calls : List String

/-- The audience of a stage. -/
def Stage.audience (s : Stage) : Audience :=
  { emitter := s.emitter, listeners := s.listeners
    events := s.events, journal := s.journal, calls := s.calls }

@[simp] theorem Stage.alone_alone (s : Stage) : s.alone.alone = s.alone := rfl

/-- Stages that are equal `alone` have the same engine. -/
theorem Stage.engine_eq_of_alone {s t : Stage} (h : s.alone = t.alone) :
    s.engine = t.engine := by
  have := congrArg Stage.engine h
  exact this

/-- Stages that are equal `alone` have the same programs. -/
theorem Stage.programs_eq_of_alone {s t : Stage} (h : s.alone = t.alone) :
    s.programs = t.programs := by
  have := congrArg Stage.programs h
  exact this

-- ============================================================ backstage

/-- Whether the instruction is a `touch`, which only changes the context. -/
def Instruction.isTouch : Instruction → Bool
  | .touch _ => true
  | .operate _ => false

/-- Whether every instruction of the program is a `touch`. -/
def Program.keepsToContext (p : Program) : Bool :=
  p.instructions.all Instruction.isTouch

/-- Every program on the stage `keepsToContext`. -/
def Stage.KeepsToContexts (s : Stage) : Prop :=
  ∀ p ∈ s.programs, p.keepsToContext = true

/-- The run comes to the same from `s` and from `s.alone`, leaves the same
`alone`, and does not change the audience; the programs that it adds are some
of `new`. -/
structure Backstage (new : List Program) (m : Run α) : Prop where
  blind : ∀ s, (m s.alone).1 = (m s).1 ∧ (m s.alone).2.alone = (m s).2.alone
  frame : ∀ s, (m s).2.audience = s.audience
  programs : ∀ s, ∃ more, more.Sublist new
    ∧ (m s).2.programs = s.programs ++ more

variable {new : List Program}

/-- From stages that are equal `alone`, a run that is `Backstage` comes to the
same and leaves stages that are. -/
theorem Backstage.congr {m : Run α} (hm : Backstage new m) {s t : Stage}
    (h : s.alone = t.alone) :
    (m s).1 = (m t).1 ∧ (m s).2.alone = (m t).2.alone := by
  obtain ⟨hs, hs'⟩ := hm.blind s
  obtain ⟨ht, ht'⟩ := hm.blind t
  rw [h] at hs hs'
  exact ⟨hs.symm.trans ht, hs'.symm.trans ht'⟩

/-- What holds of every program and of the `new` ones holds of every program
afterwards. -/
theorem Backstage.all {m : Run α} (hm : Backstage new m)
    {P : Program → Prop} (hnew : ∀ p ∈ new, P p) {s : Stage}
    (hs : ∀ p ∈ s.programs, P p) : ∀ p ∈ (m s).2.programs, P p := by
  obtain ⟨more, hmore, hprograms⟩ := hm.programs s
  intro p hp
  rw [hprograms] at hp
  rcases List.mem_append.1 hp with hp | hp
  · exact hs p hp
  · exact hnew p (hmore.subset hp)

/-- If the `new` programs keep to their contexts, so do all programs
afterwards. -/
theorem Backstage.keeps {m : Run α} (hm : Backstage new m)
    (hnew : ∀ p ∈ new, p.keepsToContext = true) {s : Stage}
    (hs : s.KeepsToContexts) : (m s).2.KeepsToContexts :=
  hm.all hnew hs

theorem backstage_pure (a : α) : Backstage new (pure a : Run α) :=
  ⟨fun _ => ⟨rfl, rfl⟩, fun _ => rfl,
    fun _ => ⟨[], List.nil_sublist _, (List.append_nil _).symm⟩⟩

theorem backstage_throw (fault : Fault) :
    Backstage new (throw fault : Run α) :=
  ⟨fun _ => ⟨rfl, rfl⟩, fun _ => rfl,
    fun _ => ⟨[], List.nil_sublist _, (List.append_nil _).symm⟩⟩

/-- A change of the stage is `Backstage` if it commutes with `alone` and leaves
audience and programs as they are. -/
theorem backstage_modify {f : Stage → Stage}
    (hblind : ∀ s, (f s.alone).alone = (f s).alone)
    (hframe : ∀ s, (f s).audience = s.audience)
    (hprograms : ∀ s, (f s).programs = s.programs) :
    Backstage [] (modify f : Run Unit) :=
  ⟨fun s => ⟨rfl, hblind s⟩, hframe,
    fun s => ⟨[], List.nil_sublist _, by
      rw [List.append_nil]
      exact hprograms s⟩⟩

/-- Sequencing two runs that are `Backstage`, with the new programs of both. -/
theorem backstage_append {new' : List Program} {m : Run α}
    {k : α → Run β} (hm : Backstage new m)
    (hk : ∀ a, Backstage new' (k a)) : Backstage (new ++ new') (m >>= k) := by
  constructor
  · intro s
    obtain ⟨hresult, hstage⟩ := hm.blind s
    rw [bind_apply, bind_apply]
    rcases hms : m s with ⟨_ | a, s₁⟩
    · rcases hma : m s.alone with ⟨_ | a', s₂⟩
      · rw [hms, hma] at hresult hstage
        cases hresult
        exact ⟨rfl, hstage⟩
      · rw [hms, hma] at hresult
        cases hresult
    · rcases hma : m s.alone with ⟨_ | a', s₂⟩
      · rw [hms, hma] at hresult
        cases hresult
      · rw [hms, hma] at hresult hstage
        cases hresult
        exact (hk a).congr hstage
  · intro s
    rw [bind_apply]
    have hframe := hm.frame s
    rcases hms : m s with ⟨_ | a, s₁⟩
    · rw [hms] at hframe
      exact hframe
    · rw [hms] at hframe
      exact ((hk a).frame s₁).trans hframe
  · intro s
    rw [bind_apply]
    obtain ⟨more, hmore, hprograms⟩ := hm.programs s
    rcases hms : m s with ⟨_ | a, s₁⟩
    · rw [hms] at hprograms
      exact ⟨more, hmore.trans (List.sublist_append_left ..), hprograms⟩
    · rw [hms] at hprograms
      obtain ⟨more', hmore', hprograms'⟩ := (hk a).programs s₁
      refine ⟨more ++ more', hmore.append hmore', ?_⟩
      rw [hprograms', hprograms, List.append_assoc]

/-- Sequencing after a run that brings no program. -/
theorem backstage_bind {m : Run α} {k : α → Run β} (hm : Backstage [] m)
    (hk : ∀ a, Backstage new (k a)) : Backstage new (m >>= k) :=
  backstage_append hm hk

/-- Sequencing with a run behind it that brings no program. -/
theorem backstage_then {m : Run α} {k : α → Run β} (hm : Backstage new m)
    (hk : ∀ a, Backstage [] (k a)) : Backstage new (m >>= k) := by
  rw [← List.append_nil new]
  exact backstage_append hm hk

/-- Sequencing after `get`, if what follows depends on `alone` only. -/
theorem backstage_get {k : Stage → Run α} (hk : ∀ s, Backstage new (k s))
    (halone : ∀ s, k s.alone = k s) : Backstage new (get >>= k) := by
  constructor
  · intro s
    show (k s.alone s.alone).1 = (k s s).1
      ∧ (k s.alone s.alone).2.alone = (k s s).2.alone
    rw [halone]
    exact (hk s).blind s
  · intro s
    exact (hk s).frame s
  · intro s
    exact (hk s).programs s

/-- To be `Backstage` without new programs is a `Law`. -/
theorem backstage_law : Law fun m _ => Backstage [] m where
  nothing := backstage_pure ()
  andThen := fun hm hk => backstage_bind hm fun _ => hk
  look := fun hsees _ hk => backstage_get hk fun s => hsees s.alone s rfl

-- ================================================================ aside

/-- The run leaves `part` of the stage as it is. -/
def Leaves {γ : Type} (part : Stage → γ) (m : Run α) : Prop :=
  ∀ s, part (m s).2 = part s

section Leaves

variable {γ : Type} {part : Stage → γ}

theorem leaves_bind {m : Run α} {k : α → Run β} (hm : Leaves part m)
    (hk : ∀ a, Leaves part (k a)) : Leaves part (m >>= k) := by
  intro s
  have hms := hm s
  rw [bind_apply]
  rcases h : m s with ⟨fault | a, t⟩
  · rw [h] at hms
    exact hms
  · rw [h] at hms
    exact (hk a t).trans hms

theorem leaves_get {k : Stage → Run α} (hk : ∀ s, Leaves part (k s)) :
    Leaves part (get >>= k) := fun s => hk s s

/-- That a run `Leaves` a part of the stage is a `Law`. -/
theorem leaves_law : Law fun m _ => Leaves part m where
  nothing := fun _ => rfl
  andThen := fun hm hk => leaves_bind hm fun _ => hk
  look := fun _ _ hk => leaves_get hk

end Leaves

/-- The active activation, and the strays in the buffers. -/
def Stage.running (s : Stage) : Option Activation × List (Nat × Stray) :=
  (s.engine.active, s.strays)

/-- The run is `Backstage` and leaves `Stage.running` as it is. -/
structure Aside (new : List Program) (m : Run α) : Prop where
  backstage : Backstage new m
  running : Leaves Stage.running m

theorem aside_pure (a : α) : Aside new (pure a : Run α) :=
  ⟨backstage_pure a, fun _ => rfl⟩

theorem aside_throw (fault : Fault) : Aside new (throw fault : Run α) :=
  ⟨backstage_throw fault, fun _ => rfl⟩

theorem aside_bind {m : Run α} {k : α → Run β} (hm : Aside [] m)
    (hk : ∀ a, Aside new (k a)) : Aside new (m >>= k) :=
  ⟨backstage_bind hm.backstage fun a => (hk a).backstage,
    leaves_bind hm.running fun a => (hk a).running⟩

theorem aside_then {m : Run α} {k : α → Run β} (hm : Aside new m)
    (hk : ∀ a, Aside [] (k a)) : Aside new (m >>= k) :=
  ⟨backstage_then hm.backstage fun a => (hk a).backstage,
    leaves_bind hm.running fun a => (hk a).running⟩

theorem aside_get {k : Stage → Run α} (hk : ∀ s, Aside new (k s))
    (halone : ∀ s, k s.alone = k s) : Aside new (get >>= k) :=
  ⟨backstage_get (fun s => (hk s).backstage) halone,
    leaves_get fun s => (hk s).running⟩

-- ======================================================== small changes

theorem note_backstage (entries : List Log.Entry) :
    Backstage [] (note entries) :=
  backstage_modify (fun _ => rfl) (fun _ => rfl) fun _ => rfl

theorem setEngine_backstage (engine : Engine Hook) :
    Backstage [] (setEngine engine) :=
  backstage_modify (fun _ => rfl) (fun _ => rfl) fun _ => rfl

theorem remember_backstage : Backstage [] (modify Stage.remember : Run Unit) :=
  backstage_modify (fun _ => rfl) (fun _ => rfl) fun _ => rfl

/-- Editing a context is `Backstage`: the draft does not depend on the
audience. -/
theorem edit_backstage (serial : Nat)
    (change : Draft → Except Fault Draft) :
    Backstage [] (edit serial change) := by
  refine backstage_get (fun s => ?_) fun s => rfl
  cases change (s.draft serial) with
  | error fault => exact backstage_throw fault
  | ok draft =>
      exact backstage_modify (fun _ => rfl) (fun _ => rfl) fun _ => rfl

theorem demand_backstage (template : Option String) :
    Backstage [] (demand template) := by
  refine backstage_get (fun s => ?_) fun s => rfl
  cases s.stray? with
  | none => exact backstage_pure ()
  | some stray =>
      cases template with
      | none => exact backstage_pure ()
      | some template =>
          dsimp only
          cases obstacle? stray s.engine.context template with
          | none => exact backstage_pure ()
          | some obstacle => exact backstage_throw _

-- ============================================================ handlers

/-- Instructions each of which is a `touch` run no operation: `runInstructions`
is `touchAll`. -/
theorem runInstructions_eq (inner : Operation → Run Reply) (text : String)
    (serial slot : Nat) {instructions : List Instruction}
    (h : instructions.all Instruction.isTouch = true) :
    runInstructions inner text serial slot instructions
      = touchAll text serial instructions := by
  induction instructions with
  | nil => rfl
  | cons instruction rest ih =>
      rw [List.all_cons, Bool.and_eq_true] at h
      cases instruction with
      | touch change => simp only [runInstructions, touchAll, ih h.2]
      | operate operation => exact absurd h.1 Bool.false_ne_true

/-- With programs that keep to their contexts, `runHook` is `touch`, whatever
could run within it. -/
theorem runHook_eq (inner : Operation → Run Reply) (text : String)
    (a : Activation) (hook : Hook) {s : Stage}
    (h : ∀ p ∈ s.programs, p.keepsToContext = true) :
    runHook inner text a hook s = touch text a hook s := by
  cases hook with
  | plain handler => rfl
  | program slot =>
      simp only [runHook, touch]
      rw [get_bind_apply, get_bind_apply]
      cases hp : s.programs[slot]? with
      | none => rfl
      | some p =>
          have hkeeps := h p (List.mem_of_getElem? hp)
          exact congrFun (runInstructions_eq inner text a.serial slot hkeeps) s

theorem touch_backstage (text : String) (a : Activation) (hook : Hook) :
    Backstage [] (touch text a hook) :=
  backstage_law.touch edit_backstage text a hook

-- ============================================================ the plan

theorem rememberEnding_backstage (course : Engine.Course Hook) :
    Backstage [] (rememberEnding course) := by
  cases course with
  | leave a template =>
      refine backstage_get (fun s => ?_) fun s => rfl
      exact backstage_bind remember_backstage fun _ => backstage_pure _
  | _ => exact backstage_pure none

/-- Carrying out a plan is `Backstage`: the workflow ends or moves before
anyone hears of it. -/
theorem carryOut_backstage (p : Engine.Plan Hook) :
    Backstage [] (carryOut p) := by
  refine backstage_bind (setEngine_backstage _) fun _ => ?_
  refine backstage_bind (note_backstage _) fun _ => ?_
  refine backstage_bind (demand_backstage _) fun _ => ?_
  refine backstage_bind (rememberEnding_backstage _) fun stray => ?_
  refine backstage_bind (setEngine_backstage _) fun _ => ?_
  exact backstage_bind (note_backstage _) fun _ => backstage_pure _

-- ============================================================ registry

theorem register_aside (d : Definition) : Aside [] (register d) := by
  refine ⟨backstage_get (fun s => ?_) fun s => rfl, fun _ => rfl⟩
  exact backstage_bind (note_backstage _) fun _ => setEngine_backstage _

theorem takeLoaded_aside (result : Except LoadFault Registry.Loaded) :
    Aside [] (takeLoaded result) := by
  cases result with
  | error fault => exact aside_throw _
  | ok loaded =>
      refine ⟨backstage_get (fun s => ?_) fun s => rfl, fun _ => rfl⟩
      refine backstage_bind (setEngine_backstage _) fun _ => ?_
      exact backstage_bind (note_backstage _) fun _ => backstage_pure _

theorem loadBatch_aside (text : String) : Aside [] (loadBatch text) :=
  aside_get (fun _ => takeLoaded_aside _) fun _ => rfl

theorem loadApart_aside (text : String) : Aside [] (loadApart text) := by
  refine aside_get (fun s => ?_) fun s => rfl
  cases s.handle with
  | none => exact aside_throw _
  | shared => exact loadBatch_aside text
  | apart r =>
      dsimp only
      cases r.loadBatch text.toList with
      | error fault => exact aside_throw _
      | ok loaded =>
          refine ⟨backstage_bind ?_ fun _ => ?_, fun _ => rfl⟩
          · exact backstage_modify (fun _ => rfl) (fun _ => rfl) fun _ => rfl
          · exact backstage_bind (note_backstage _) fun _ => backstage_pure _

theorem swapRegistry_aside (text : String) :
    Aside [] (swapRegistry text) := by
  refine aside_bind ⟨?_, fun _ => rfl⟩ fun _ => loadBatch_aside text
  exact backstage_modify (fun _ => rfl) (fun _ => rfl) fun _ => rfl

theorem readRecord_aside (text : List Char) : Aside [] (readRecord text) := by
  unfold readRecord
  cases Json.read text with
  | error fault => exact aside_throw _
  | ok v =>
      dsimp only
      cases Record.read v with
      | error refusal => exact aside_throw _
      | ok d => exact aside_pure d

theorem registerState_aside (id : String)
    (state : Except UnknownWord State) :
    Aside [] (registerState id state) := by
  refine aside_get (fun s => ?_) fun s => rfl
  cases s.engine.registry.get? id with
  | none => exact aside_throw _
  | some d =>
      cases state with
      | error word => exact aside_throw _
      | ok state => exact aside_bind (register_aside _) fun _ => aside_pure _

theorem registerHandler_aside (name : String) (program : Program) :
    Aside [program] (registerHandler name program) := by
  refine ⟨backstage_get (fun s => ?_) fun s => rfl, fun _ => rfl⟩
  refine backstage_bind (note_backstage _) fun _ => ?_
  exact ⟨fun _ => ⟨rfl, rfl⟩, fun _ => rfl,
    fun _ => ⟨[program], List.Sublist.refl _, rfl⟩⟩

end Colloquy.Script
