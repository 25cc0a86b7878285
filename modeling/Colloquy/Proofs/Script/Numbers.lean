/-
The numbers of activations. Every activation gets the next number, and what
is kept of it stands under its number: its context once it has ended, and a
stray in its buffer. So all numbers that there are lie below the next one
(`Stage.Numbered`), and whatever happens on a stage leads onward
(`Onward`): the activation that is running afterwards is the one that was
running before, or it has a number that was not given yet.

That holds of every operation, whatever handlers and listeners run within
it (`run_onward`). Since a number is given once, what is written under one
number reaches no other activation (`write_frame`), and an activation that
has not started yet has nothing to its name (`Stage.Numbered.unused`).
-/
import Colloquy.Proofs.Script.Budget
import Colloquy.Proofs.Script.Handling
import Colloquy.Proofs.Script.Running

namespace Colloquy

universe u

namespace Engine

variable {H : Type u}

/-- What a plan makes of the running activation: the activation `Continues`, or
the engine is idle before and after, or a new `activation` starts, under the
next serial. -/
theorem plan_numbers (e : Engine H) (text intent : String) :
    (∃ a b, e.active = some a ∧ a.Continues b
        ∧ (e.plan text intent).engine = e.running b)
      ∨ (e.active = none ∧ (e.plan text intent).engine = e)
      ∨ ∃ d b, e.active = none ∧ (e.activation d).Continues b
        ∧ (e.plan text intent).engine = (e.activating d).running b := by
  cases hactive : e.active with
  | some a =>
      obtain ⟨b, hab, hengine⟩ := (plan_continues hactive text intent).engine
      exact .inl ⟨a, b, rfl, hab, hengine⟩
  | none =>
      rcases plan_idle hactive text intent with ⟨-, heq⟩ | ⟨d, -, -, hgoes⟩
      · exact .inr (.inl ⟨rfl, by rw [heq]⟩)
      · obtain ⟨b, hdb, hengine⟩ := hgoes.engine
        exact .inr (.inr ⟨d, b, rfl, hdb, hengine⟩)

/-- A plan captures for the activation that is running. -/
theorem plan_captured {e : Engine H} {text intent : String} {handler : H}
    {a : Activation} {s : State}
    (h : (e.plan text intent).course = .capture handler a s) :
    (e.plan text intent).engine.active = some a := by
  have hactivation : (e.plan text intent).course.activation? = some a := by
    rw [h]
    rfl
  obtain ⟨e', b, hgoes, -⟩ := plan_workflow hactivation
  exact hgoes.course a hactivation

/-- If a step is a `capture`, so is the course, and `carryOut` has changed
nothing. -/
theorem Plan.course_of_capture {p : Plan H} {handler : H} {a : Activation}
    {s : State} (h : p.carryOut.step = .capture handler a s) :
    p.course = .capture handler a s ∧ p.carryOut.engine = p.engine := by
  obtain ⟨engine, entries, course⟩ := p
  cases course with
  | capture handler' b s' =>
      cases h
      exact ⟨rfl, rfl⟩
  | _ => cases h

theorem carryOut_captured {e : Engine H} {text intent : String} {handler : H}
    {a : Activation} {s : State}
    (h : (e.plan text intent).carryOut.step = .capture handler a s) :
    (e.plan text intent).carryOut.engine.active = some a := by
  obtain ⟨hcourse, hsame⟩ := Plan.course_of_capture h
  rw [hsame]
  exact plan_captured hcourse

end Engine

namespace Script

-- =============================================================== numbers

/-- Every serial on the stage is below `activations`: that of the running
activation, those of the strays, and those of the contexts that ended. -/
structure Stage.Numbered (s : Stage) : Prop where
  running : ∀ a, s.engine.active = some a → a.serial < s.engine.activations
  strays : ∀ entry ∈ s.strays, entry.1 < s.engine.activations
  ended : ∀ entry ∈ s.ended, entry.1 < s.engine.activations

/-- A stage that is idle, without strays and ended contexts, is `Numbered`. -/
theorem Stage.Numbered.of_unused {s : Stage} (hidle : s.engine.active = none)
    (hstrays : s.strays = []) (hended : s.ended = []) : s.Numbered := by
  refine ⟨?_, ?_, ?_⟩
  · rw [hidle]
    exact nofun
  · rw [hstrays]
    exact nofun
  · rw [hended]
    exact nofun

/-- What goes by serials, with the next serial. -/
def Stage.numbers (s : Stage) :
    Option Activation × Nat × List (Nat × Stray) × List (Nat × Context) :=
  (s.engine.active, s.engine.activations, s.strays, s.ended)

/-- From `s` to `t` serials were given in turn: what is running in `t` was
running in `s`, or has a serial that was given since. -/
structure Onward (s t : Stage) : Prop where
  numbered : t.Numbered
  activations : s.engine.activations ≤ t.engine.activations
  running : ∀ b, t.engine.active = some b →
    (∃ a, s.engine.active = some a ∧ b.serial = a.serial
        ∧ b.workflow = a.workflow)
      ∨ s.engine.activations ≤ b.serial

theorem Onward.refl {s : Stage} (hs : s.Numbered) : Onward s s :=
  ⟨hs, Nat.le_refl _, fun b hb => .inl ⟨b, hb, rfl, rfl⟩⟩

theorem Onward.trans {s t u : Stage} (h : Onward s t) (h' : Onward t u) :
    Onward s u := by
  refine ⟨h'.numbered, Nat.le_trans h.activations h'.activations, ?_⟩
  intro c hc
  rcases h'.running c hc with ⟨b, hb, hserial, hworkflow⟩ | hnew
  · rcases h.running b hb with ⟨a, ha, hserial', hworkflow'⟩ | hnew
    · exact .inl ⟨a, ha, hserial.trans hserial', hworkflow.trans hworkflow'⟩
    · exact .inr (hserial ▸ hnew)
  · exact .inr (Nat.le_trans h.activations hnew)

/-- If the `numbers` are the same, the stages are `Onward`. -/
theorem Onward.of_numbers {s t : Stage} (hs : s.Numbered)
    (h : t.numbers = s.numbers) : Onward s t := by
  have hactive : t.engine.active = s.engine.active := congrArg (·.1) h
  have hnext : t.engine.activations = s.engine.activations :=
    congrArg (·.2.1) h
  have hstrays : t.strays = s.strays := congrArg (·.2.2.1) h
  have hended : t.ended = s.ended := congrArg (·.2.2.2) h
  refine ⟨⟨?_, ?_, ?_⟩, Nat.le_of_eq hnext.symm, ?_⟩
  · rw [hactive, hnext]
    exact hs.running
  · rw [hstrays, hnext]
    exact hs.strays
  · rw [hended, hnext]
    exact hs.ended
  · rw [hactive]
    exact (Onward.refl hs).running

/-- Whatever listeners do, reactions carry `Onward`. -/
theorem onward_carries : Carries Onward fun _ => True where
  trans h h' := h.trans h'
  good h := .refl h.numbered
  reacts _ := fun _ _ _ _ _ _ => trivial
  aside h _ halone _ := by
    refine .of_numbers h.numbered ?_
    have hnumbers := congrArg Stage.numbers halone
    exact hnumbers.symm

-- ================================================================ writing

/-- Writing a draft under a serial that has been given is `Onward`. -/
theorem write_onward {s : Stage} (hs : s.Numbered) {serial : Nat}
    (hserial : serial < s.engine.activations) (d : Draft) :
    Onward s (s.write serial d) := by
  have hactive : (s.write serial d).engine.active
      = s.engine.active.map fun a =>
        if a.serial = serial then { a with context := d.context } else a := rfl
  have hsame : ∀ b, (s.write serial d).engine.active = some b →
      ∃ a, s.engine.active = some a ∧ b.serial = a.serial
        ∧ b.workflow = a.workflow := by
    intro b hb
    rw [hactive] at hb
    obtain ⟨a, ha, rfl⟩ := Option.map_eq_some_iff.1 hb
    refine ⟨a, ha, ?_⟩
    by_cases h : a.serial = serial
    · rw [if_pos h]
      exact ⟨rfl, rfl⟩
    · rw [if_neg h]
      exact ⟨rfl, rfl⟩
  refine ⟨⟨?_, ?_, ?_⟩, Nat.le_refl _, fun b hb => .inl (hsame b hb)⟩
  · intro b hb
    obtain ⟨a, ha, hba, -⟩ := hsame b hb
    rw [hba]
    exact hs.running a ha
  · intro entry hentry
    rcases List.mem_append.1 hentry with hnew | hold
    · obtain ⟨stray, -, rfl⟩ := List.mem_map.1 (by
        rw [Option.toList_map] at hnew
        exact hnew)
      exact hserial
    · exact hs.strays entry (List.mem_filter.1 hold).1
  · intro entry hentry
    obtain ⟨old, hold, rfl⟩ := List.mem_map.1 hentry
    by_cases h : old.1 = serial
    · rw [if_pos h]
      exact hserial
    · rw [if_neg h]
      exact hs.ended old hold

theorem edit_onward {serial : Nat} (change : Draft → Except Fault Draft)
    {s : Stage} (hs : s.Numbered) (hserial : serial < s.engine.activations) :
    Onward s (edit serial change s).2 := by
  unfold edit
  rw [get_bind_apply]
  cases change (s.draft serial) with
  | error fault => exact .refl hs
  | ok d => exact write_onward hs hserial d

/-- Entries under other serials are found after `filter` as before. -/
theorem lookup_filter_ne {α : Type} {n serial : Nat} (hn : n ≠ serial)
    (entries : List (Nat × α)) :
    (entries.filter fun entry => entry.1 ≠ serial).lookup n
      = entries.lookup n := by
  induction entries with
  | nil => rfl
  | cons entry rest ih =>
      rw [List.lookup_cons]
      by_cases h : entry.1 = serial
      · rw [List.filter_cons_of_neg (by simpa using h), ih, h,
          beq_false_of_ne hn]
      · rw [List.filter_cons_of_pos (by simpa using h), List.lookup_cons, ih]

/-- Entries under other serials are found after `map` as before. -/
theorem lookup_map_ne {α : Type} {n serial : Nat} (hn : n ≠ serial) (a : α)
    (entries : List (Nat × α)) :
    (entries.map fun entry =>
        if entry.1 = serial then (serial, a) else entry).lookup n
      = entries.lookup n := by
  induction entries with
  | nil => rfl
  | cons entry rest ih =>
      rw [List.map_cons, List.lookup_cons, List.lookup_cons, ih]
      by_cases h : entry.1 = serial
      · rw [if_pos h, h, beq_false_of_ne hn]
      · rw [if_neg h]

/-- Writing under one serial leaves every other activation alone: its context,
its stray, and the running activation if it has another serial. -/
theorem write_frame (s : Stage) {serial n : Nat} (hn : n ≠ serial)
    (d : Draft) :
    (s.write serial d).contextOf n = s.contextOf n
      ∧ (s.write serial d).strays.lookup n = s.strays.lookup n
      ∧ ((s.write serial d).engine.active.filter fun b => b.serial = n)
        = s.engine.active.filter fun b => b.serial = n := by
  have hactive :
      ((s.write serial d).engine.active.filter fun b => b.serial = n)
        = s.engine.active.filter fun b => b.serial = n := by
    show ((s.engine.active.map fun a =>
          if a.serial = serial then { a with context := d.context }
          else a).filter
        fun b => b.serial = n) = _
    cases s.engine.active with
    | none => rfl
    | some a =>
        rw [Option.map_some, Option.filter_some, Option.filter_some]
        by_cases hserial : a.serial = serial
        · have ha : ¬ a.serial = n := fun h => hn (h.symm.trans hserial)
          rw [if_pos hserial, if_neg (by simpa using ha),
            if_neg (by simpa using ha)]
        · rw [if_neg hserial]
  have hended : (s.write serial d).ended.lookup n = s.ended.lookup n :=
    lookup_map_ne hn d.context s.ended
  refine ⟨?_, ?_, hactive⟩
  · unfold Stage.contextOf
    rw [hactive, hended]
  · show (((d.settle s.rows).2.map fun stray => (serial, stray)).toList
      ++ s.strays.filter fun entry => entry.1 ≠ serial).lookup n = _
    have hkept := lookup_filter_ne hn s.strays
    cases (d.settle s.rows).2 with
    | none => exact hkept
    | some stray =>
        show List.lookup n ((serial, stray) :: s.strays.filter _) = _
        rw [List.lookup_cons, beq_false_of_ne hn]
        exact hkept

/-- On a `Numbered` stage, a serial that has not been given has an empty
context and no stray. -/
theorem Stage.Numbered.unused {s : Stage} (hs : s.Numbered) {n : Nat}
    (hn : s.engine.activations ≤ n) :
    s.contextOf n = {} ∧ s.strays.lookup n = none := by
  have hlookup : ∀ {α : Type} (entries : List (Nat × α)),
      (∀ entry ∈ entries, entry.1 < s.engine.activations) →
      entries.lookup n = none := by
    intro α entries h
    refine List.lookup_eq_none_iff.2 fun entry hentry => ?_
    have hlt := Nat.lt_of_lt_of_le (h entry hentry) hn
    simpa using Nat.ne_of_gt hlt
  refine ⟨?_, hlookup s.strays hs.strays⟩
  unfold Stage.contextOf
  have hidle : (s.engine.active.filter fun a => a.serial = n) = none := by
    refine Option.filter_eq_none_iff.2 fun a ha => ?_
    have hlt := Nat.lt_of_lt_of_le (hs.running a ha) hn
    simpa using Nat.ne_of_lt hlt
  rw [hidle, hlookup s.ended hs.ended]
  rfl

-- ================================================================== plans

/-- The engine of a plan is `Onward`. -/
theorem plan_onward {s : Stage} (hs : s.Numbered) (text intent : String)
    (entries : List Log.Entry) :
    Onward s { s with
      engine := (s.engine.plan text intent).engine
      entries } := by
  rcases s.engine.plan_numbers text intent
    with ⟨a, b, ha, hab, hengine⟩ | ⟨hidle, hengine⟩ |
      ⟨d, b, hidle, hab, hengine⟩
  · rw [hengine]
    refine ⟨⟨?_, hs.strays, hs.ended⟩, Nat.le_refl _, ?_⟩
    · intro c hc
      cases hc
      exact hab.serial ▸ hs.running a ha
    · intro c hc
      cases hc
      exact .inl ⟨a, ha, hab.serial, hab.workflow⟩
  · rw [hengine]
    exact .of_numbers hs rfl
  · rw [hengine]
    have hlater : ∀ {n : Nat}, n < s.engine.activations →
        n < s.engine.activations + 1 := Nat.lt_succ_of_lt
    refine ⟨⟨?_, fun entry h => hlater (hs.strays entry h),
      fun entry h => hlater (hs.ended entry h)⟩, Nat.le_succ _, ?_⟩
    · intro c hc
      cases hc
      exact hab.serial ▸ Nat.lt_succ_self _
    · intro c hc
      cases hc
      exact .inr (Nat.le_of_eq hab.serial.symm)

/-- Ending the running activation, with its context remembered, is `Onward`. -/
theorem remember_onward {s : Stage} (hs : s.Numbered)
    (entries : List Log.Entry) :
    Onward s { s.remember with engine := s.engine.reset, entries } := by
  refine ⟨⟨nofun, hs.strays, ?_⟩, Nat.le_refl _, nofun⟩
  intro entry hentry
  rcases List.mem_append.1 hentry with hnew | hold
  · obtain ⟨a, ha, rfl⟩ := Option.map_eq_some_iff.1 (Option.mem_toList.1 hnew)
    exact hs.running a ha
  · exact hs.ended entry hold

/-- Carrying out the plan of an input is `Onward`. -/
theorem carryOut_onward {s : Stage} (hs : s.Numbered) (text intent : String) :
    Onward s (carryOut (s.engine.plan text intent) s).2 := by
  have hplan := fun entries => plan_onward hs text intent entries
  generalize s.engine.plan text intent = p at hplan
  have hplanned : Onward s (s.planned p) := hplan _
  rcases carryOut_concludes p s with hcarry | ⟨-, -, fault, hcarry⟩
  · rw [hcarry]
    refine hplanned.trans ?_
    obtain ⟨engine, entries, course⟩ := p
    cases course with
    | leave a template => exact remember_onward hplanned.numbered _
    | _ => exact .of_numbers hplanned.numbered rfl
  · rw [hcarry]
    exact hplanned

-- ============================================================= operations

/-- Registering what was loaded `Leaves` the numbers. -/
theorem takeLoaded_leaves_numbers (result : Except LoadFault Registry.Loaded) :
    Leaves Stage.numbers (takeLoaded result) := by
  cases result with
  | error fault => exact fun _ => rfl
  | ok loaded => exact fun _ => rfl

/-- An operation that is not told of and no reset `Leaves` the numbers. -/
theorem perform_leaves_numbers {op : Operation} (hop : op.isOwn = true)
    (hsub : op.isSubscription = false) (htold : op.isTold = false)
    (hreset : op.isReset = false) :
    Leaves Stage.numbers (perform deaf op) := by
  have hload : ∀ text, Leaves Stage.numbers (loadBatch text) :=
    fun text => leaves_get fun _ => takeLoaded_leaves_numbers _
  cases op with
  | handle text intent => cases htold
  | announce message => cases htold
  | process text => cases hop
  | emit action => cases hop
  | subscribe event listener => cases hsub
  | unsubscribe event listener => cases hsub
  | reset => cases hreset
  | loadBatch text => exact hload text
  | loadFile path => exact leaves_get fun _ => takeLoaded_leaves_numbers _
  | loadBuiltins => exact leaves_get fun _ => takeLoaded_leaves_numbers _
  | loadApart text =>
      refine leaves_get fun s => ?_
      cases s.handle with
      | none => exact fun _ => rfl
      | shared => exact hload text
      | apart r =>
          dsimp only
          cases r.loadBatch text.toList <;> exact fun _ => rfl
  | swapRegistry text => exact leaves_bind (fun _ => rfl) fun _ => hload text
  | register record =>
      refine leaves_bind ?_ fun d => fun _ => rfl
      unfold readRecord
      cases Json.read record.toList with
      | error fault => exact fun _ => rfl
      | ok v =>
          dsimp only
          cases Record.read v <;> exact fun _ => rfl
  | registerDefinition d => exact fun _ => rfl
  | registerState id state =>
      refine leaves_get fun s => ?_
      cases s.engine.registry.get? id with
      | none => exact fun _ => rfl
      | some d => cases state <;> exact fun _ => rfl
  | registerHandler name program => exact fun _ => rfl
  | ask query =>
      refine leaves_get fun s => ?_
      cases answer s query <;> exact fun _ => rfl
  | refuse word => exact fun _ => rfl

section Within

variable {inner : Operation → Run Reply}
  (hinner : ∀ op s, True → Onward s s → Onward s (inner op s).2)
include hinner

/-- With inner runs that are `Onward`, so is `runHook` for an activation whose
serial has been given. -/
theorem runHook_onward (text : String) (a : Activation) (hook : Hook)
    {s : Stage} (hs : s.Numbered) (ha : a.serial < s.engine.activations) :
    Onward s (runHook inner text a hook s).2 := by
  cases hook with
  | plain handler => exact edit_onward _ hs ha
  | program slot =>
      simp only [runHook]
      rw [get_bind_apply]
      cases s.programs[slot]? with
      | none => exact .refl hs
      | some p =>
          -- the number stays below the next one, whatever runs in between
          have hfrom : Carries (fun s t => Onward s t
              ∧ a.serial < s.engine.activations) fun _ => True := {
            trans := fun h h' => ⟨h.1.trans h'.1, h.2⟩
            good := fun h => ⟨.refl h.1.numbered,
              Nat.lt_of_lt_of_le h.2 h.1.activations⟩
            reacts := fun _ _ _ _ _ _ _ => trivial
            aside := fun h hreacts halone hjournal =>
              ⟨onward_carries.aside h.1 hreacts halone hjournal, h.2⟩ }
          have hspend : ∀ s : Stage, s.Numbered →
              Onward s (spend slot s).2 := by
            intro s hs
            obtain ⟨programs, hpaid⟩ := spend_stage slot s
            rw [hpaid]
            exact .of_numbers hs rfl
          exact (runInstructions_carries hfrom
            (fun op s h hs => ⟨hinner op s h hs.1, hs.2⟩)
            (fun s hs => ⟨hspend s hs.1.numbered, hs.2⟩)
            (fun change _ s hs =>
              ⟨edit_onward _ hs.1.numbered hs.2, hs.2⟩)
            (fun _ _ => trivial) ⟨.refl hs, ha⟩).1

/-- The same for `dispatch`. -/
theorem dispatch_onward (action : Action) (stray : Option Stray) {s : Stage}
    (hs : s.Numbered) : Onward s (dispatch inner action stray s).2 :=
  (dispatch_carries onward_carries hinner action stray (.refl hs)).2

/-- The same for `handle`. -/
theorem handle_onward (text intent : String) {s : Stage} (hs : s.Numbered) :
    Onward s (handle inner text intent s).2 := by
  unfold handle
  rw [get_bind_apply]
  refine bind_carries onward_carries (carryOut_onward hs text intent)
    fun r t hcarry ht => ?_
  obtain ⟨step, stray⟩ := r
  cases step with
  | settled outcome =>
      have htell := (forM_carries onward_carries (fun action u hu =>
        dispatch_carries onward_carries hinner action stray hu)
        outcome.action.toList t ht).2
      exact bind_carries onward_carries htell fun _ u _ hu => hu
  | failed fault => exact ht
  | capture hook a state =>
      have ha : a.serial < t.engine.activations := by
        refine ht.numbered.running a ?_
        rcases carryOut_cases (s.engine.plan text intent) s
          with ⟨-, -, fault, u, hfails, -⟩ | ⟨_, u, hgoes, hengine⟩
        · rw [hfails] at hcarry
          cases hcarry
        · rw [hgoes] at hcarry
          obtain ⟨hstep, hu⟩ := Prod.mk.inj hcarry
          have hstep := congrArg Prod.fst (Except.ok.inj hstep)
          rw [← hu, hengine]
          exact Engine.carryOut_captured hstep
      refine bind_carries onward_carries
        (runHook_onward hinner text a hook ht.numbered ha) fun _ u _ hu => ?_
      rw [get_bind_apply]
      cases u.engine.captured state with
      | error fault => exact hu
      | ok action =>
          exact bind_carries onward_carries
            (dispatch_onward hinner action none hu.numbered) fun _ v _ hv => hv

/-- The same for `process`. -/
theorem process_onward (text : String) {s : Stage} (hs : s.Numbered) :
    Onward s (process inner text s).2 := by
  unfold process
  refine bind_carries onward_carries (.of_numbers hs rfl) fun _ t _ ht => ?_
  rw [get_bind_apply]
  cases Session.route t.engine text with
  | blank => exact ht
  | content text =>
      exact bind_carries onward_carries
        (handle_onward hinner text _ ht.numbered) fun _ u _ hu => hu
  | classify text =>
      refine bind_carries onward_carries
        (show Onward t (classify text t).2 from .of_numbers ht.numbered rfl)
        fun c u _ hu => ?_
      refine bind_carries onward_carries
        (handle_onward hinner text c.intent hu.numbered) fun r v _ hv => ?_
      exact .of_numbers hv.numbered rfl

/-- The same for `perform`. -/
theorem perform_onward (op : Operation) {s : Stage} (hs : s.Numbered) :
    Onward s (perform inner op s).2 := by
  cases hsub : op.isSubscription with
  | true =>
      obtain ⟨m, hm⟩ := perform_subscription inner op hsub s
      rw [hm]
      exact .of_numbers hs rfl
  | false =>
      have hquiet : op.isOwn = true → op.isTold = false →
          op.isReset = false → Onward s (perform inner op s).2 := by
        intro hop htold hreset
        rw [perform_eq_deaf inner hop htold]
        exact .of_numbers hs (perform_leaves_numbers hop hsub htold hreset s)
      cases op with
      | handle text intent =>
          exact bind_carries onward_carries
            (handle_onward hinner text intent hs) fun _ t _ ht => ht
      | process text => exact process_onward hinner text hs
      | announce message =>
          have hdemand : Onward s (demand (some message) s).2 := by
            rcases demand_cases (some message) s with h | ⟨-, -, fault, h⟩
            · rw [h]
              exact .refl hs
            · rw [h]
              exact .refl hs
          refine bind_carries onward_carries hdemand fun _ t _ ht => ?_
          rw [get_bind_apply]
          exact bind_carries onward_carries
            (dispatch_onward hinner _ none ht.numbered) fun _ u _ hu => hu
      | emit action =>
          exact bind_carries onward_carries
            (dispatch_onward hinner action none hs) fun _ t _ ht => ht
      | reset => exact remember_onward hs _
      | ask query =>
          refine .of_numbers hs ?_
          show ((liftExcept (answer s query) : Run Reply) s).2.numbers = _
          cases answer s query <;> rfl
      | _ => exact hquiet rfl rfl rfl

end Within

-- =================================================================== runs

theorem within_onward (depth : Nat) :
    ∀ (op : Operation) (s : Stage), True → Onward s s →
      Onward s (within depth op s).2 := by
  induction depth with
  | zero => exact fun _ _ _ hs => hs
  | succ depth ih =>
      intro op s _ hs
      show Onward s (runWithin depth op s).2
      rw [runWithin_eq]
      have hblank : ({ s with journal := [] } : Stage).Numbered :=
        ⟨hs.numbered.running, hs.numbered.strays, hs.numbered.ended⟩
      have hperform := perform_onward ih op hblank
      exact ⟨⟨hperform.numbered.running, hperform.numbered.strays,
        hperform.numbered.ended⟩, hperform.activations, hperform.running⟩

/-- Every operation is `Onward`, whatever handlers and listeners run within it.
-/
theorem run_onward (op : Operation) {s : Stage} (hs : s.Numbered) :
    Onward s (run op s).2 :=
  within_onward (s.budget + op.weight + 1) op s trivial (.refl hs)

theorem runAll_onward (ops : List Operation) {s : Stage} (hs : s.Numbered) :
    Onward s (runAll ops s).2 := by
  induction ops generalizing s with
  | nil => exact .refl hs
  | cons op rest ih =>
      have hfirst := run_onward op hs
      exact hfirst.trans (ih hfirst.numbered)

end Script
end Colloquy
