/-
Budgets bound the depth. Whoever answers with operations pays for it: a
listener reacts, and a program operates, only so many times. So the depth
at which a run of an operation cuts off what nests is never reached, and a
greater depth changes nothing (`runWithin_eq_run`).

# The bookkeeping

`Spends s t extra` says that the budget of a stage grew by no more than
was registered, and that every program still stands in its slot. An
operation pays before it runs anything within it: a reaction costs one
more than the weights of its operations, so every operation that runs
within has less of a budget before it than the operation around it
(`hear_agrees`, `runInstructions_agrees`). Two ways to run what nests that
agree below a bound therefore agree on what nests at the bound
(`perform_agrees`), and the depth is such a bound.
-/
import Colloquy.Proofs.Script.Settling

namespace Colloquy.Script

-- ================================================================ totals

theorem total_append (ns ms : List Nat) :
    total (ns ++ ms) = total ns + total ms := by
  induction ns with
  | nil => exact (Nat.zero_add _).symm
  | cons n rest ih =>
      show n + total (rest ++ ms) = n + total rest + total ms
      rw [ih, Nat.add_assoc]

theorem total_le_of_sublist {ns ms : List Nat} (h : ns.Sublist ms) :
    total ns ≤ total ms := by
  induction h with
  | slnil => exact Nat.le_refl _
  | @cons ns ms m _ ih =>
      show total ns ≤ m + total ms
      omega
  | @cons_cons ns ms m _ ih =>
      show m + total ns ≤ m + total ms
      omega

/-- The weight of an operation is that of the programs that it brings. -/
theorem Operation.weight_eq (op : Operation) :
    op.weight = total (op.brings.map Program.weight) := by
  cases op with
  | registerHandler name program =>
      simp only [Operation.weight, Operation.brings]
      rfl
  | _ =>
      simp only [Operation.weight, Operation.brings]
      rfl

/-- The weight of an operation is at most the `weights` of the instructions
that it is among. -/
theorem weight_le_weights {operation : Operation}
    {instructions : List Instruction}
    (h : .operate operation ∈ instructions) :
    operation.weight ≤ weights instructions := by
  induction instructions with
  | nil => cases h
  | cons first rest ih =>
      rw [weights]
      rcases List.mem_cons.1 h with rfl | h
      · rw [Instruction.weight]
        omega
      · have := ih h
        omega

/-- Replacing a listener in a catalogue changes the `total` by the difference.
-/
theorem total_putEntry (weight : Listener → Nat) {name : String}
    {old : Listener} (new : Listener) {entries : List (String × Listener)}
    (h : entries.lookup name = some old) :
    total (((putEntry name new entries).map Prod.snd).map weight)
        + weight old
      = total ((entries.map Prod.snd).map weight) + weight new := by
  induction entries with
  | nil => cases h
  | cons entry rest ih =>
      obtain ⟨key, value⟩ := entry
      by_cases hkey : key = name
      · subst hkey
        rw [List.lookup_cons_self] at h
        cases h
        rw [putEntry, if_pos rfl]
        show weight new + total ((rest.map Prod.snd).map weight) + weight old
          = weight old + total ((rest.map Prod.snd).map weight) + weight new
        omega
      · have hne : (name == key) = false := beq_false_of_ne (Ne.symm hkey)
        rw [List.lookup_cons, hne] at h
        have hrest := ih h
        rw [putEntry, if_neg hkey]
        show weight value
            + total (((putEntry name new rest).map Prod.snd).map weight)
            + weight old
          = weight value + total ((rest.map Prod.snd).map weight)
            + weight new
        omega

/-- Replacing a program in its slot changes the `total` by the difference. -/
theorem total_set {p q : Program} {slot : Nat} {programs : List Program}
    (h : programs[slot]? = some p) :
    total ((programs.set slot q).map Program.weight) + p.weight
      = total (programs.map Program.weight) + q.weight := by
  induction programs generalizing slot with
  | nil => cases h
  | cons first rest ih =>
      cases slot with
      | zero =>
          rw [List.getElem?_cons_zero] at h
          cases h
          show q.weight + total (rest.map Program.weight) + p.weight
            = p.weight + total (rest.map Program.weight) + q.weight
          omega
      | succ slot =>
          rw [List.getElem?_cons_succ] at h
          have hrest := ih h
          show first.weight
              + total ((rest.set slot q).map Program.weight) + p.weight
            = first.weight + total (rest.map Program.weight) + q.weight
          omega

-- ============================================================== spending

/-- From `s` to `t` the budget grows by `extra` at most, and every program
keeps its slot and its instructions. -/
structure Spends (s t : Stage) (extra : Nat) : Prop where
  budget : t.budget ≤ s.budget + extra
  slots : ∀ {slot : Nat} {p : Program}, s.programs[slot]? = some p →
    ∃ p', t.programs[slot]? = some p' ∧ p'.instructions = p.instructions

theorem Spends.of_eq {s t : Stage} (hlisteners : t.listeners = s.listeners)
    (hprograms : t.programs = s.programs) : Spends s t 0 := by
  constructor
  · unfold Stage.budget
    rw [hlisteners, hprograms]
    exact Nat.le_refl _
  · intro slot p h
    exact ⟨p, by rw [hprograms, h], rfl⟩

/-- With the same programs and no greater budget, a stage `Spends` nothing. -/
theorem Spends.of_programs_eq {s t : Stage} (h : t.programs = s.programs)
    (hbudget : t.budget ≤ s.budget) : Spends s t 0 :=
  ⟨hbudget, fun {_ p} hp => ⟨p, by rw [h, hp], rfl⟩⟩

theorem Spends.trans {s t u : Stage} {m n : Nat} (h : Spends s t m)
    (h' : Spends t u n) : Spends s u (m + n) := by
  constructor
  · have := h.budget
    have := h'.budget
    omega
  · intro slot p hp
    obtain ⟨p', hp', hi⟩ := h.slots hp
    obtain ⟨p'', hp'', hi'⟩ := h'.slots hp'
    exact ⟨p'', hp'', hi'.trans hi⟩

theorem Spends.mono {s t : Stage} {m n : Nat} (h : Spends s t m)
    (hmn : m ≤ n) : Spends s t n :=
  ⟨by have := h.budget; omega, h.slots⟩

/-- What grows by no more than a `cost` that was paid before `Spends` nothing.
-/
theorem Spends.pay {s t u : Stage} {cost : Nat} (h : Spends s t 0)
    (hcost : t.budget + cost ≤ s.budget) (h' : Spends t u cost) :
    Spends s u 0 :=
  ⟨by have := h'.budget; omega, (h.trans h').slots⟩

/-- A run that is `Backstage` grows the budget by the weights of its new
programs at most. -/
theorem Backstage.spends {α : Type} {new : List Program} {m : Run α}
    (hm : Backstage new m) (s : Stage) :
    Spends s (m s).2 (total (new.map Program.weight)) := by
  obtain ⟨more, hmore, hprograms⟩ := hm.programs s
  have hlisteners : (m s).2.listeners = s.listeners :=
    congrArg Audience.listeners (hm.frame s)
  constructor
  · have hle := total_le_of_sublist (hmore.map Program.weight)
    unfold Stage.budget
    rw [hlisteners, hprograms, List.map_append, total_append]
    omega
  · intro slot p hp
    have hlt := (List.getElem?_eq_some_iff.1 hp).1
    exact ⟨p, by rw [hprograms, List.getElem?_append_left hlt, hp], rfl⟩

-- ============================================================ agreement

variable {α β : Type}

/-- From `s`, `m` and `m'` come to the same, and the budget grows by `extra` at
most. -/
structure Agrees (m m' : Run α) (s : Stage) (extra : Nat) : Prop where
  same : m s = m' s
  spends : Spends s (m s).2 extra

theorem Agrees.of_backstage {new : List Program} {m : Run α}
    (hm : Backstage new m) (s : Stage) :
    Agrees m m s (total (new.map Program.weight)) :=
  ⟨rfl, hm.spends s⟩

theorem Agrees.bind {m m' : Run α} {k k' : α → Run β} {s : Stage}
    {extra extra' : Nat} (hm : Agrees m m' s extra)
    (hk : ∀ a t, Spends s t extra → Agrees (k a) (k' a) t extra') :
    Agrees (m >>= k) (m' >>= k') s (extra + extra') := by
  obtain ⟨hsame, hspends⟩ := hm
  rcases hms : m s with ⟨fault | a, t⟩
  · rw [hms] at hsame hspends
    have hm' := hsame.symm
    refine ⟨?_, ?_⟩
    · rw [bind_of_error hms, bind_of_error hm']
    · rw [bind_of_error hms]
      exact hspends.mono (Nat.le_add_right ..)
  · rw [hms] at hsame hspends
    have hm' := hsame.symm
    obtain ⟨hsame', hspends'⟩ := hk a t hspends
    refine ⟨?_, ?_⟩
    · rw [bind_of_ok hms, bind_of_ok hm', hsame']
    · rw [bind_of_ok hms]
      exact hspends.trans hspends'

/-- Sequencing after a run that pays the `cost` of what follows. -/
theorem Agrees.pay (cost : Nat) {m : Run α} {k k' : α → Run β}
    {s t : Stage} {a : α} (hm : m s = (.ok a, t)) (hspends : Spends s t 0)
    (hcost : t.budget + cost ≤ s.budget)
    (hk : Agrees (k a) (k' a) t cost) :
    Agrees (m >>= k) (m >>= k') s 0 := by
  refine ⟨?_, ?_⟩
  · rw [bind_of_ok hm, bind_of_ok hm, hk.same]
  · rw [bind_of_ok hm]
    exact hspends.pay hcost hk.spends

/-- Sequencing after a run that spends nothing. -/
theorem Agrees.bind_free {m m' : Run α} {k k' : α → Run β} {s : Stage}
    {extra : Nat} (hm : Agrees m m' s 0)
    (hk : ∀ a t, Spends s t 0 → Agrees (k a) (k' a) t extra) :
    Agrees (m >>= k) (m' >>= k') s extra := by
  have h := hm.bind hk
  rw [Nat.zero_add] at h
  exact h

/-- Sequencing after `get`. -/
theorem Agrees.get {k k' : Stage → Run α} {s : Stage} {extra : Nat}
    (hk : Agrees (k s) (k' s) s extra) :
    Agrees (get >>= k) (get >>= k') s extra := ⟨hk.same, hk.spends⟩

theorem Agrees.attempt {m m' : Run α} {s : Stage} {extra : Nat}
    (hm : Agrees m m' s extra) :
    Agrees (attempt m) (attempt m') s extra := by
  refine ⟨?_, hm.spends⟩
  show ((.ok (m s).1, (m s).2) : Except Fault (Except Fault α) × Stage)
    = (.ok (m' s).1, (m' s).2)
  rw [hm.same]

theorem Agrees.see (event : Event) (s : Stage) :
    Agrees (see event) (see event) s 0 :=
  ⟨rfl, .of_eq rfl rfl⟩

theorem Agrees.forM {f f' : β → Run Unit} {bound : Nat}
    (hf : ∀ b s, s.budget ≤ bound → Agrees (f b) (f' b) s 0) :
    ∀ (bs : List β) (s : Stage), s.budget ≤ bound →
      Agrees (bs.forM f) (bs.forM f') s 0 := by
  intro bs
  induction bs with
  | nil => exact fun s _ => ⟨rfl, .of_eq rfl rfl⟩
  | cons b rest ih =>
      intro s hs
      refine (hf b s hs).bind_free fun _ t ht => ih t ?_
      have := ht.budget
      omega

/-- If `spend` says that the program may operate, the budget has fallen by one
and what its instructions weigh. -/
theorem spend_pays {slot : Nat} {p : Program} {s : Stage}
    (h : s.programs[slot]? = some p) :
    spend slot s = (.ok false, s)
      ∨ ∃ t, spend slot s = (.ok true, t) ∧ Spends s t 0
          ∧ t.budget + (1 + weights p.instructions) = s.budget := by
  unfold spend
  rw [get_bind_apply, h]
  by_cases hlimit : p.limit = 0
  · left
    simp only [if_pos hlimit]
    rfl
  · right
    simp only [if_neg hlimit]
    let t : Stage := { s with programs := s.programs.set slot p.spend }
    have hbudget : t.budget + (1 + weights p.instructions) = s.budget := by
      have hset := total_set (q := p.spend) h
      have hweight : p.weight
          = p.spend.weight + (1 + weights p.instructions) := by
        obtain ⟨instructions, limit⟩ := p
        obtain ⟨n, rfl⟩ := Nat.exists_eq_succ_of_ne_zero hlimit
        simp only [Program.spend, Program.weight, Program.instructions,
          Nat.succ_sub_one, Nat.succ_mul]
      show total (s.listeners.values.map Listener.weight)
          + total ((s.programs.set slot p.spend).map Program.weight)
          + (1 + weights p.instructions)
        = total (s.listeners.values.map Listener.weight)
          + total (s.programs.map Program.weight)
      omega
    refine ⟨t, rfl, ⟨by omega, fun {slot' q} hq => ?_⟩, hbudget⟩
    by_cases hslot : slot = slot'
    · subst hslot
      rw [h] at hq
      cases hq
      have hlt := (List.getElem?_eq_some_iff.1 h).1
      refine ⟨p.spend, List.getElem?_set_self hlt, ?_⟩
      obtain ⟨instructions, limit⟩ := p
      rfl
    · exact ⟨q, by rw [List.getElem?_set_ne hslot, hq], rfl⟩

/-- To agree within a budget, as long as `instructions` stand in `slot`, is a
`Law`. -/
theorem agrees_law (bound slot : Nat) (instructions : List Instruction) :
    Law fun m m' => ∀ s : Stage,
      s.programs[slot]?.map Program.instructions = some instructions →
      s.budget ≤ bound → Agrees m m' s 0 where
  nothing := fun _ _ _ => ⟨rfl, .of_eq rfl rfl⟩
  andThen := fun hm hk s hslot hs => by
    refine (hm s hslot hs).bind_free fun _ t ht => hk t ?_ ?_
    · obtain ⟨p, hp, rfl⟩ := Option.map_eq_some_iff.1 hslot
      obtain ⟨p', hp', hsame⟩ := ht.slots hp
      rw [hp', Option.map_some, hsame]
    · have := ht.budget
      omega
  look := fun _ _ hk s hslot hs => .get (hk s s hslot hs)

-- ====================================================== what nests within

section Within

variable {inner inner' : Operation → Run Reply} {bound : Nat}
  (hsteady : ∀ op s, Spends s (inner op s).2 op.weight)
  (hagree : ∀ op s, s.budget + op.weight < bound → inner op s = inner' op s)
include hsteady hagree

/-- With inner runs that agree below the bound, so do reactions whose weights
stay below it. -/
theorem runReactions_agrees (action : Action) :
    ∀ (reactions : List Reaction) (s : Stage),
      s.budget + total (reactions.map Reaction.weight) < bound →
      Agrees (runReactions inner action reactions)
        (runReactions inner' action reactions) s
        (total (reactions.map Reaction.weight)) := by
  intro reactions
  induction reactions with
  | nil => exact fun s _ => ⟨rfl, .of_eq rfl rfl⟩
  | cons reaction rest ih =>
      intro s hs
      have htotal : total ((reaction :: rest).map Reaction.weight)
          = reaction.weight + total (rest.map Reaction.weight) := rfl
      rw [htotal] at hs ⊢
      have hrun : ∀ op, op.weight = reaction.weight →
          Agrees (attempt (inner op)) (attempt (inner' op)) s
            reaction.weight := by
        intro op hop
        rw [← hop]
        exact Agrees.attempt ⟨hagree op s (by omega), hsteady op s⟩
      cases reaction with
      | fail message =>
          exact ⟨rfl, Spends.mono (.of_eq rfl rfl) (Nat.zero_le _)⟩
      | operate op =>
          refine (hrun op rfl).bind fun result t ht => ?_
          refine (Agrees.see _ t).bind_free fun _ u hu => ih u ?_
          have := ht.budget
          have := hu.budget
          omega
      | insist op wording =>
          refine (hrun op rfl).bind fun result t ht => ?_
          refine (Agrees.see _ t).bind_free fun _ u hu => ?_
          cases result with
          | error fault =>
              exact ⟨rfl, Spends.mono (.of_eq rfl rfl) (Nat.zero_le _)⟩
          | ok reply =>
              refine ih u ?_
              have := ht.budget
              have := hu.budget
              omega

/-- The same for `hear`: a listener that reacts pays one more than its
reactions weigh. -/
theorem hear_agrees (action : Action) (stray : Option Stray)
    (name : String) (s : Stage) (hs : s.budget ≤ bound) :
    Agrees (hear inner action stray name) (hear inner' action stray name)
      s 0 := by
  unfold hear
  refine Agrees.get ?_
  cases hl : s.listeners.get? name with
  | none => exact ⟨rfl, .of_eq rfl rfl⟩
  | some l =>
      by_cases hquiet : l.quiet = true
      · simp only [if_pos hquiet]
        exact ⟨rfl, .of_eq rfl rfl⟩
      simp only [if_neg hquiet]
      by_cases hlimit : l.limit = 0
      · simp only [if_pos hlimit]
        exact ⟨rfl, .of_eq rfl rfl⟩
      simp only [if_neg hlimit]
      let event : Event := .heard name action stray s.engine.workflow?
        s.engine.stateKey?
      let l' : Listener := { l with limit := l.limit - 1 }
      let paid : Stage := { s with
        events := s.events ++ [event]
        listeners := s.listeners.put name l' }
      let cost := total (l.reactions.map Reaction.weight)
      have hbudget : paid.budget + (1 + cost) = s.budget := by
        have hput := total_putEntry Listener.weight l' hl
        have hweight : l.weight = l'.weight + (1 + cost) := by
          obtain ⟨limit, hlimit⟩ := Nat.exists_eq_succ_of_ne_zero hlimit
          show l.limit * (1 + cost) = (l.limit - 1) * (1 + cost) + (1 + cost)
          rw [hlimit, Nat.succ_sub_one, Nat.succ_mul]
        have hpaid : paid.budget = total ((((putEntry name l'
            s.listeners.entries).map Prod.snd)).map Listener.weight)
            + total (s.programs.map Program.weight) := rfl
        have hbefore : s.budget = total (((s.listeners.entries).map
            Prod.snd).map Listener.weight)
            + total (s.programs.map Program.weight) := rfl
        omega
      have hreact := runReactions_agrees hsteady hagree action l.reactions
        paid (by show paid.budget + cost < bound; omega)
      have hfree : Spends s paid 0 := .of_programs_eq rfl (by omega)
      exact ⟨hreact.same, hfree.pay (by omega) hreact.spends⟩

/-- The same for `dispatch`, one listener after another. -/
theorem dispatch_agrees (action : Action) (stray : Option Stray)
    (s : Stage) (hs : s.budget ≤ bound) :
    Agrees (dispatch inner action stray) (dispatch inner' action stray)
      s 0 :=
  Agrees.get (Agrees.forM (hear_agrees hsteady hagree action stray)
    (s.emitter.listeners action.kind) s hs)

/-- The same for `runInstructions`: each operation is paid for with one of the
program's. -/
theorem runInstructions_agrees (text : String) (serial : Nat) {slot : Nat}
    {p : Program} {s : Stage} (hp : s.programs[slot]? = some p)
    (hs : s.budget ≤ bound) :
    Agrees (runInstructions inner text serial slot p.instructions)
      (runInstructions inner' text serial slot p.instructions) s 0 := by
  refine (agrees_law bound slot p.instructions).runInstructions inner inner'
    (fun change _ t _ _ => .of_backstage (edit_backstage serial _) t)
    (fun op hop t ht htb => ?_) s (by rw [hp, Option.map_some]) hs
  obtain ⟨q, hq, hsame⟩ := Option.map_eq_some_iff.1 ht
  have hweight : op.weight ≤ weights q.instructions :=
    weight_le_weights (hsame ▸ hop)
  rcases spend_pays hq with hspend | ⟨u, hspend, htu, hbudget⟩
  · have hfree : Spends t t 0 := .of_eq rfl rfl
    exact Agrees.pay 0 hspend hfree (Nat.le_refl _) ⟨rfl, hfree⟩
  · refine Agrees.pay op.weight hspend htu (by omega) ?_
    have hinner : Agrees (inner op) (inner' op) u op.weight :=
      ⟨hagree op u (by omega), hsteady op u⟩
    exact hinner.attempt.bind fun result v _ => Agrees.see _ v

/-- The same for `runHook`. -/
theorem runHook_agrees (text : String) (a : Activation) (hook : Hook)
    (s : Stage) (hs : s.budget ≤ bound) :
    Agrees (runHook inner text a hook) (runHook inner' text a hook) s 0 := by
  cases hook with
  | plain handler =>
      unfold runHook
      exact .of_backstage (edit_backstage a.serial _) s
  | program slot =>
      refine Agrees.get ?_
      cases hp : s.programs[slot]? with
      | none => exact ⟨rfl, .of_eq rfl rfl⟩
      | some p =>
          exact runInstructions_agrees hsteady hagree text a.serial hp hs

/-- The same for `handle`. -/
theorem handle_agrees (text intent : String) (s : Stage)
    (hs : s.budget ≤ bound) :
    Agrees (handle inner text intent) (handle inner' text intent) s 0 := by
  unfold handle
  refine Agrees.get ?_
  refine (Agrees.of_backstage (carryOut_backstage _) s).bind_free
    fun r t ht => ?_
  have htb : t.budget ≤ bound := by have := ht.budget; omega
  obtain ⟨step, stray⟩ := r
  cases step with
  | settled outcome =>
      refine (Agrees.forM (fun action u hu =>
        dispatch_agrees hsteady hagree action stray u hu)
        _ t htb).bind_free fun _ u _ => ⟨rfl, .of_eq rfl rfl⟩
  | failed fault => exact ⟨rfl, .of_eq rfl rfl⟩
  | capture hook a state =>
      refine (runHook_agrees hsteady hagree text a hook t htb).bind_free
        fun _ u hu => Agrees.get ?_
      cases u.engine.captured state with
      | error fault => exact ⟨rfl, .of_eq rfl rfl⟩
      | ok action =>
          have hub : u.budget ≤ bound := by have := hu.budget; omega
          exact (dispatch_agrees hsteady hagree action none u hub).bind_free
            fun _ v _ => ⟨rfl, .of_eq rfl rfl⟩

/-- The same for `process`. -/
theorem process_agrees (text : String) (s : Stage) (hs : s.budget ≤ bound) :
    Agrees (process inner text) (process inner' text) s 0 := by
  have hhandle : ∀ (text intent : String) (t : Stage), Spends s t 0 →
      Agrees (handle inner text intent) (handle inner' text intent) t 0 := by
    intro text intent t ht
    refine handle_agrees hsteady hagree text intent t ?_
    have := ht.budget
    omega
  unfold process
  refine Agrees.bind_free ⟨rfl, .of_eq rfl rfl⟩ fun _ t ht => Agrees.get ?_
  cases Session.route t.engine text with
  | blank => exact ⟨rfl, .of_eq rfl rfl⟩
  | content text =>
      exact (hhandle text _ t ht).bind_free fun _ _ _ => ⟨rfl, .of_eq rfl rfl⟩
  | classify text =>
      refine Agrees.bind_free ⟨rfl, .of_eq rfl rfl⟩ fun c u hu => ?_
      refine (hhandle text c.intent u (ht.trans hu)).bind_free fun _ _ _ => ?_
      exact ⟨rfl, .of_eq rfl rfl⟩

/-- The same for `perform`, which grows the budget by the operation's weight at
most. -/
theorem perform_agrees (op : Operation) (s : Stage) (hs : s.budget ≤ bound) :
    Agrees (perform inner op) (perform inner' op) s op.weight := by
  rw [Operation.weight_eq]
  have hrest : op.isOwn = true → op.isSubscription = false →
      op.isTold = false → Agrees (perform inner op) (perform inner' op) s
        (total (op.brings.map Program.weight)) := by
    intro hop hsub htold
    rw [perform_eq_deaf inner hop htold, perform_eq_deaf inner' hop htold]
    exact .of_backstage (perform_backstage hop hsub htold) s
  cases op with
  | handle text intent =>
      exact (handle_agrees hsteady hagree text intent s hs).bind_free
        fun _ _ _ => ⟨rfl, .of_eq rfl rfl⟩
  | process text => exact process_agrees hsteady hagree text s hs
  | announce message =>
      refine (Agrees.of_backstage (demand_backstage _) s).bind_free
        fun _ t ht => Agrees.get ?_
      have htb : t.budget ≤ bound := by have := ht.budget; omega
      exact (dispatch_agrees hsteady hagree _ none t htb).bind_free
        fun _ _ _ => ⟨rfl, .of_eq rfl rfl⟩
  | emit action =>
      exact (dispatch_agrees hsteady hagree action none s hs).bind_free
        fun _ _ _ => ⟨rfl, .of_eq rfl rfl⟩
  | subscribe event listener =>
      obtain ⟨m, hm⟩ := perform_subscription inner
        (.subscribe event listener) rfl s
      exact ⟨rfl, by rw [hm]; exact .of_eq rfl rfl⟩
  | unsubscribe event listener =>
      obtain ⟨m, hm⟩ := perform_subscription inner
        (.unsubscribe event listener) rfl s
      exact ⟨rfl, by rw [hm]; exact .of_eq rfl rfl⟩
  | ask query =>
      refine Agrees.get ?_
      cases answer s query with
      | error fault => exact ⟨rfl, .of_eq rfl rfl⟩
      | ok reply => exact ⟨rfl, .of_eq rfl rfl⟩
  | _ => exact hrest rfl rfl rfl

end Within

-- ================================================================ depth

/-- What runs within an operation that `runWithin` cuts off at a depth. -/
def within : Nat → Operation → Run Reply
  | 0 => fun _ => pure .nothing
  | depth + 1 => runWithin depth

theorem runWithin_eq (depth : Nat) :
    runWithin depth = journalled (perform (within depth)) := by
  cases depth with
  | zero => rfl
  | succ depth => rfl

/-- Whatever the depth, an operation run `within` grows the budget by its
weight at most. -/
theorem within_steady (depth : Nat) :
    ∀ op s, Spends s (within depth op s).2 op.weight := by
  induction depth with
  | zero => exact fun op s => Spends.mono (.of_eq rfl rfl) (Nat.zero_le _)
  | succ depth ih =>
      intro op s
      let blank : Stage := { s with journal := [] }
      obtain ⟨hbudget, hslots⟩ :=
        (@perform_agrees (within depth) (within depth)
        blank.budget ih (fun _ _ _ => rfl) op blank (Nat.le_refl _)).spends
      show Spends s (runWithin depth op s).2 op.weight
      rw [runWithin_eq]
      exact ⟨hbudget, hslots⟩

/-- At two depths above the budget, `within` is the same. -/
theorem within_agree (depth : Nat) :
    ∀ (depth' : Nat) (op : Operation) (s : Stage),
      s.budget + op.weight < depth → s.budget + op.weight < depth' →
      within depth op s = within depth' op s := by
  induction depth with
  | zero => exact fun _ _ _ h => absurd h (Nat.not_lt_zero _)
  | succ depth ih =>
      intro depth' op s hdepth hdepth'
      cases depth' with
      | zero => exact absurd hdepth' (Nat.not_lt_zero _)
      | succ depth' =>
          let blank : Stage := { s with journal := [] }
          have hsame := (@perform_agrees _ (within depth') (min depth depth')
            (within_steady depth)
            (fun op s h => ih depth' op s (by omega) (by omega)) op blank
            (show s.budget ≤ _ by omega)).same
          show runWithin depth op s = runWithin depth' op s
          rw [runWithin_eq, runWithin_eq]
          unfold journalled
          rw [hsame]

/-- At any depth of at least the budget, `runWithin` is `run`: nothing is cut
off. -/
theorem runWithin_eq_run {depth : Nat} {op : Operation} {s : Stage}
    (h : s.budget + op.weight ≤ depth) : runWithin depth op s = run op s :=
  within_agree (depth + 1) (s.budget + op.weight + 1) op s (by omega)
    (by omega)

/-- What runs within an operation is `run` like any other operation: nothing is
cut off. -/
theorem run_eq (op : Operation) (s : Stage) :
    run op s = journalled (perform run) op s := by
  let blank : Stage := { s with journal := [] }
  let depth := s.budget + op.weight
  have hsame := (@perform_agrees _ run depth (within_steady depth)
    (fun op' t h => within_agree depth (t.budget + op'.weight + 1) op' t h
      (Nat.lt_succ_self _)) op blank (Nat.le_add_right ..)).same
  show runWithin depth op s = _
  rw [runWithin_eq]
  unfold journalled
  rw [hsame]

end Colloquy.Script
