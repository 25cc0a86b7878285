/-
Laws of runs. A run on a stage is put together from smaller ones, one after
another. A law is something that holds of two runs at a time: of two that do
nothing, of two that go on one after another if it holds of what they are
made of, and of two that look at the programs of the stage if it holds of
them whatever they see (`Law`). What is said of a single run is a law that
overlooks the second one.

# Handlers

A handler does one instruction after another (`runInstructions`), and so a law
holds of a handler if it holds of every change of a context and of every
operation that a program pays for (`Law.runHook`). A handler that keeps to its
context only makes changes; `touch` is what it does, and a law of changes is
a law of `touch`.
-/
import Colloquy.Script

namespace Colloquy.Script

variable {α β : Type}

-- ====================================================== runs on a stage

/-- What `m >>= k` does: `k` starts where `m` ended, unless it failed. -/
theorem bind_apply (m : Run α) (k : α → Run β) (s : Stage) :
    (m >>= k) s = match m s with
      | (.ok a, s') => k a s'
      | (.error fault, s') => (.error fault, s') := by
  show ExceptT.bindCont k (m s).1 (m s).2 = _
  rcases m s with ⟨_ | _, s'⟩ <;> rfl

/-- If `m` came to `a`, `m >>= k` is `k a` from where it ended. -/
theorem bind_of_ok {m : Run α} {k : α → Run β} {s s' : Stage} {a : α}
    (h : m s = (.ok a, s')) : (m >>= k) s = k a s' := by
  rw [bind_apply, h]

/-- If `m` failed, so does `m >>= k`. -/
theorem bind_of_error {m : Run α} {k : α → Run β} {s s' : Stage}
    {fault : Fault} (h : m s = (.error fault, s')) :
    (m >>= k) s = (.error fault, s') := by
  rw [bind_apply, h]

/-- If `m >>= k` succeeds, both did. -/
theorem bind_eq_ok {m : Run α} {k : α → Run β} {s : Stage} {b : β}
    (h : ((m >>= k) s).1 = .ok b) :
    ∃ a t, m s = (.ok a, t) ∧ (k a t).1 = .ok b := by
  rw [bind_apply] at h
  rcases hm : m s with ⟨fault | a, t⟩
  · rw [hm] at h
    cases h
  · rw [hm] at h
    exact ⟨a, t, rfl, h⟩

/-- Sequencing after `get`. -/
theorem get_bind_apply (k : Stage → Run α) (s : Stage) :
    (get >>= k) s = k s s := rfl

/-- Sequencing with a `k` that changes nothing leaves the stage of `m`. -/
theorem bind_stage {m : Run α} {k : α → Run β}
    (hk : ∀ a s, (k a s).2 = s) (s : Stage) : ((m >>= k) s).2 = (m s).2 := by
  rw [bind_apply]
  rcases m s with ⟨fault | a, t⟩
  · rfl
  · exact hk a t

-- ================================================================= laws

/-- What `k` does depends on the programs of the stage alone. -/
def SeesPrograms (k : Stage → Run Unit) : Prop :=
  ∀ s t : Stage, s.programs = t.programs → k s = k t

/-- A relation on runs that holds of `pure ()`, of one run after another, and
of runs after `get` that see the programs only. -/
structure Law (P : Run Unit → Run Unit → Prop) : Prop where
  nothing : P (pure ()) (pure ())
  andThen : ∀ {m m' k k' : Run Unit}, P m m' → P k k' →
    P (m >>= fun _ => k) (m' >>= fun _ => k')
  look : ∀ {k k' : Stage → Run Unit}, SeesPrograms k → SeesPrograms k' →
    (∀ s, P (k s) (k' s)) → P (get >>= k) (get >>= k')

-- ============================================================ handlers

/-- The operation is run if `spend` allows it, and its end is seen. -/
def runPaid (inner : Operation → Run Reply) (slot : Nat)
    (operation : Operation) : Run Unit := do
  if ← spend slot then see (.nested (← attempt (inner operation)))

theorem runInstructions_operate (inner : Operation → Run Reply)
    (text : String) (serial slot : Nat) (operation : Operation)
    (rest : List Instruction) :
    runInstructions inner text serial slot (.operate operation :: rest)
      = (do
        runPaid inner slot operation
        runInstructions inner text serial slot rest) := by
  simp only [runInstructions, runPaid, bind_assoc]
  congr 1
  funext paid
  cases paid <;> rfl

/-- The edits of those instructions that are a `touch`, one after another. -/
def touchAll (text : String) (serial : Nat) : List Instruction → Run Unit
  | [] => pure ()
  | .touch change :: rest => do
    edit serial (change text)
    touchAll text serial rest
  | .operate _ :: rest => touchAll text serial rest

/-- The handler of an activation takes a text, and of a program only the edits
are run. -/
def touch (text : String) (a : Activation) : Hook → Run Unit
  | .plain handler =>
    edit a.serial fun d => (d.gather handler text).mapError .sum
  | .program slot => do
    match (← get).programs[slot]? with
    | some p => touchAll text a.serial p.instructions
    | none => pure ()

section Law

variable {P : Run Unit → Run Unit → Prop} (h : Law P)
  (inner inner' : Operation → Run Reply) {text : String} {serial slot : Nat}
include h

/-- A `Law` of every edit and of every operation that is paid for is one of
`runInstructions`. -/
theorem Law.runInstructions {instructions : List Instruction}
    (hedit : ∀ change, .touch change ∈ instructions →
      P (edit serial (change text)) (edit serial (change text)))
    (hpaid : ∀ op, .operate op ∈ instructions →
      P (runPaid inner slot op) (runPaid inner' slot op)) :
    P (runInstructions inner text serial slot instructions)
      (runInstructions inner' text serial slot instructions) := by
  induction instructions with
  | nil => exact h.nothing
  | cons instruction rest ih =>
      have hrest := ih
        (fun change hchange => hedit change (List.mem_cons_of_mem _ hchange))
        (fun op hop => hpaid op (List.mem_cons_of_mem _ hop))
      cases instruction with
      | touch change =>
          exact h.andThen (hedit change (List.mem_cons_self ..)) hrest
      | operate op =>
          rw [runInstructions_operate, runInstructions_operate]
          exact h.andThen (hpaid op (List.mem_cons_self ..)) hrest

/-- A `Law` of every edit is one of `touchAll`. -/
theorem Law.touchAll {instructions : List Instruction}
    (hedit : ∀ change, .touch change ∈ instructions →
      P (edit serial (change text)) (edit serial (change text))) :
    P (touchAll text serial instructions)
      (touchAll text serial instructions) := by
  induction instructions with
  | nil => exact h.nothing
  | cons instruction rest ih =>
      have hrest := ih fun change hchange =>
        hedit change (List.mem_cons_of_mem _ hchange)
      cases instruction with
      | touch change =>
          exact h.andThen (hedit change (List.mem_cons_self ..)) hrest
      | operate op => exact hrest

/-- A `Law` of every edit and of every operation that is paid for is one of
`runHook`. -/
theorem Law.runHook
    (hedit : ∀ serial change, P (edit serial change) (edit serial change))
    (hpaid : ∀ slot op, P (runPaid inner slot op) (runPaid inner' slot op))
    (text : String) (a : Activation) (hook : Hook) :
    P (runHook inner text a hook) (runHook inner' text a hook) := by
  cases hook with
  | plain handler =>
      unfold Script.runHook
      exact hedit a.serial _
  | program slot =>
      refine h.look (fun s t hst => by rw [hst]) (fun s t hst => by rw [hst])
        fun s => ?_
      cases s.programs[slot]? with
      | none => exact h.nothing
      | some p =>
          exact h.runInstructions inner inner'
            (fun change _ => hedit a.serial _) fun op _ => hpaid slot op

/-- A `Law` of every edit is one of `touch`. -/
theorem Law.touch
    (hedit : ∀ serial change, P (edit serial change) (edit serial change))
    (text : String) (a : Activation) (hook : Hook) :
    P (touch text a hook) (touch text a hook) := by
  cases hook with
  | plain handler =>
      unfold Script.touch
      exact hedit a.serial _
  | program slot =>
      refine h.look (fun s t hst => by rw [hst]) (fun s t hst => by rw [hst])
        fun s => ?_
      cases s.programs[slot]? with
      | none => exact h.nothing
      | some p => exact h.touchAll fun change _ => hedit a.serial _

end Law

end Colloquy.Script
