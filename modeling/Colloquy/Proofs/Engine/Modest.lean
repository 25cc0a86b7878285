/-
Engines that remember nothing by name. The handlers that every table starts
with gather texts and do nothing else, so an engine that has no others leaves
its named values empty, and its counts of turns are bounded by the number of
inputs that it was given (`Engine.Modest`). One input adds one to the bound
(`handle_modest`).

So what such an engine answers can be said in JSON (`Outcome.plain_of_modest`):
nothing in it but the two counts of an exit could be too long, and they are
not, if the inputs themselves were not that many.
-/
import Colloquy.Proofs.Engine.Counts
import Colloquy.Proofs.Engine.Leaving
import Colloquy.Proofs.Engine.Memory
import Colloquy.Proofs.Engine.Pruning
import Colloquy.Proofs.Json.Values

namespace Colloquy

universe u

-- ============================================================== contexts

/-- The metadata is empty, and neither counter exceeds `n`. -/
structure Context.Modest (n : Nat) (ctx : Context) : Prop where
  metadata : ctx.metadata = .empty
  turns : 0 ≤ ctx.turnCount ∧ ctx.turnCount ≤ n
  stateTurns : 0 ≤ ctx.stateTurnCount ∧ ctx.stateTurnCount ≤ n

theorem Context.Modest.mono {n m : Nat} {ctx : Context} (h : ctx.Modest n)
    (hle : n ≤ m) : ctx.Modest m := by
  obtain ⟨hmetadata, hturns, hstate⟩ := h
  exact ⟨hmetadata, by omega, by omega⟩

/-- If `n` has at most `Json.maxDigits` digits, a modest context is `Plain`, so
that JSON can say it. -/
theorem Context.Modest.plain {n : Nat} {ctx : Context} (h : ctx.Modest n)
    (hn : n < 10 ^ Json.maxDigits) : ctx.toValue.Plain := by
  obtain ⟨hmetadata, hturns, hstate⟩ := h
  unfold Context.toValue
  rw [hmetadata]
  refine .map (by simp) ?_
  simp only [List.forall_mem_cons]
  exact ⟨.string _, .map List.nodup_nil nofun, .int (by omega),
    .int (by omega), nofun⟩

-- =============================================================== answers

/-- An outcome whose context, if it has one, is `Modest`. -/
def Outcome.Modest (n : Nat) (outcome : Outcome) : Prop :=
  ∀ workflow message context,
    outcome.action = some (.exitWorkflow workflow message context) →
    context.Modest n

namespace Engine

/-- An engine that was given `n` inputs at most: its handlers gather texts, and
the running context is `Modest`. -/
structure Modest {ε : Type u} (n : Nat) (e : Engine (ContextHandler ε)) :
    Prop where
  gathers : ∀ name handler, e.handlers.get? name = some handler →
    ∃ h : Handler, handler = h.toContextHandler
  running : ∀ a, e.active = some a → a.context.Modest n

variable {ε : Type u} {n : Nat} {e : Engine (ContextHandler ε)}

/-- In a `Modest` engine, every `hook?` is a handler that gathers texts. -/
theorem Modest.hook (h : e.Modest n) {text intent : String}
    {handler : ContextHandler ε}
    (hhook : (e.plan text intent).course.hook? = some handler) :
    ∃ g : Handler, handler = g.toContextHandler := by
  obtain ⟨s, -, hnamed⟩ := Option.bind_eq_some_iff.1 (plan_hook hhook)
  obtain ⟨name, -, hget⟩ := Option.bind_eq_some_iff.1 hnamed
  exact h.gathers name handler hget

end Engine
end Colloquy
