/-
Handlers that operate, whatever they are looked at for. A handler does one
instruction after another: it changes the context that it holds on to, or it
runs an operation and pays for it. So a way from stage to stage that leads
along every operation leads along the handler as a whole, if it leads along
its changes and its payments (`runInstructions_carries`).

What listeners do along the same ways is in the module about telling.
-/
import Colloquy.Proofs.Script.Telling

namespace Colloquy.Script

/-- What `spend` changes is the programs, and nothing else. -/
theorem spend_stage (slot : Nat) (s : Stage) :
    ∃ programs, (spend slot s).2 = { s with programs } := by
  unfold spend
  rw [get_bind_apply]
  cases s.programs[slot]? with
  | none => exact ⟨s.programs, rfl⟩
  | some p =>
      dsimp only
      by_cases hlimit : p.limit = 0
      · rw [if_pos hlimit]
        exact ⟨s.programs, rfl⟩
      · rw [if_neg hlimit]
        exact ⟨s.programs.set slot p.spend, rfl⟩

section

variable {R : Stage → Stage → Prop} {fair : Operation → Prop}
  (hR : Carries R fair) {inner : Operation → Run Reply}
  (hinner : ∀ op s, fair op → R s s → R s (inner op s).2)

include hR in
/-- Sequencing runs that carry `R`, where the second starts only if the first
succeeds. -/
theorem bind_carries {α β : Type} {m : Run α} {k : α → Run β} {s : Stage}
    (hm : R s (m s).2)
    (hk : ∀ a t, m s = (.ok a, t) → R t t → R t (k a t).2) :
    R s ((m >>= k) s).2 := by
  rw [bind_apply]
  rcases h : m s with ⟨fault | a, t⟩
  · rw [h] at hm
    exact hm
  · rw [h] at hm
    exact hR.trans hm (hk a t h (hR.good hm))

include hR in
/-- To carry `R` from stages that it relates to themselves is a `Law`. -/
theorem carries_law : Law fun m _ => ∀ s, R s s → R s (m s).2 where
  nothing := fun _ hs => hs
  andThen := fun hm hk s hs =>
    bind_carries hR (hm s hs) fun _ t _ ht => hk t ht
  look := fun _ _ hk s hs => hk s s hs

include hR hinner in
/-- If `spend`, every edit and every operation carry `R`, so does
`runInstructions`. -/
theorem runInstructions_carries {text : String} {serial slot : Nat}
    (hspend : ∀ s, R s s → R s (spend slot s).2)
    {instructions : List Instruction}
    (hedit : ∀ change, .touch change ∈ instructions → ∀ s, R s s →
      R s (edit serial (change text) s).2)
    (hfair : ∀ op, .operate op ∈ instructions → fair op) {s : Stage}
    (hs : R s s) :
    R s (runInstructions inner text serial slot instructions s).2 := by
  refine (carries_law hR).runInstructions inner inner hedit
    (fun op hop t ht => ?_) s hs
  refine bind_carries hR (hspend t ht) fun paid u _ hu => ?_
  cases paid with
  | false => exact hu
  | true =>
      obtain ⟨v, hsee, huv⟩ := nested_carries hR hinner (hfair op hop) hu
      have hattempt : attempt (inner op) u
          = (.ok (inner op u).1, (inner op u).2) := rfl
      show R u ((attempt (inner op) >>= fun result =>
        see (.nested result)) u).2
      rw [bind_of_ok hattempt, hsee]
      exact huv

end

end Colloquy.Script
