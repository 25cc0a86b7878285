/-
What a workflow remembers. A handler that reads and writes nothing but the
buffer and the values of a context is a step of a fold: the memory of a
running workflow is what the handlers make of the texts that they captured
since it was activated, one text after another, starting from nothing. No
captured text is lost, taken twice or taken out of turn.

# The record of captured texts

A `Ledger` is an engine together with the texts that were captured since
the running workflow was activated, each with the handler that took it:
the one that the active state named, as the table had it then. Every
request that captures a text adds it (`Engine.captures`), and an engine
that is idle has captured nothing. The record is beside the engine, which
never reads it; the theorem is that the memory is the fold over the
record, wherever a run stands.

The engine itself never writes the memory: an input that activates, moves
or ends a workflow goes on with the memory as it was
(`Plan.Continues`), and only the handler that takes an input changes it.
-/
import Colloquy.Batch
import Colloquy.Builtins
import Colloquy.Proofs.Engine.Course

namespace Colloquy

universe u

variable {ε : Type u}

-- =============================================================== memory

/-- What a handler may read and write of a context: the buffer and the
metadata. -/
structure Memory where
  buffer : String := ""
  metadata : Catalog Value := .empty

/-- The `Memory` of a context. -/
def Context.memory (ctx : Context) : Memory := ⟨ctx.buffer, ctx.metadata⟩

/-- The context with `m` as its memory. -/
def Context.withMemory (ctx : Context) (m : Memory) : Context :=
  { ctx with buffer := m.buffer, metadata := m.metadata }

theorem Activation.Continues.memory {a b : Activation}
    (h : a.Continues b) : b.context.memory = a.context.memory := by
  rw [Context.memory, Context.memory, h.buffer, h.metadata]

namespace ContextHandler

/-- What a handler makes of a memory, given a text. -/
def onMemory (h : ContextHandler ε) (m : Memory) (text : String) : Memory :=
  (h text (({} : Context).withMemory m)).1.memory

/-- The handler returns normally, and reads and writes nothing but the text and
the `Memory`. -/
def KeepsToMemory (h : ContextHandler ε) : Prop :=
  ∀ text ctx, h text ctx = (ctx.withMemory (h.onMemory ctx.memory text), none)

end ContextHandler

/-- What a host may ask of an engine. -/
inductive Request (ε : Type u)
  | handle (text intent : String)
  | announce (message : String)
  | reset
  | register (d : Definition)
  | loadBatch (text : List Char)
  | registerHandler (name : String) (handler : ContextHandler ε)

/-- A request that registers a handler registers one that `KeepsToMemory`. -/
def Request.KeepsToMemory : Request ε → Prop
  | .registerHandler _ handler => ContextHandler.KeepsToMemory handler
  | _ => True

namespace Engine

/-- The engine after a request. -/
def serve (e : Engine (ContextHandler ε)) :
    Request ε → Engine (ContextHandler ε)
  | .handle text intent => (e.handle text intent).engine
  | .announce _ => e
  | .reset => e.reset
  | .register d => { e with registry := e.registry.register d }
  | .loadBatch text =>
    match e.registry.loadBatch text with
    | .ok loaded => { e with registry := loaded.registry }
    | .error _ => e
  | .registerHandler name handler => e.registerHandler name handler

/-- Whether the outcome is an `inputCaptured`. -/
def Result.isCaptured (r : Result (ContextHandler ε) ε) : Bool :=
  match r.outcome with
  | .ok { action := some (.inputCaptured ..), .. } => true
  | _ => false

/-- The text that a request has captured, if it has, with the handler that took
it. -/
def captures (e : Engine (ContextHandler ε)) :
    Request ε → List (String × ContextHandler ε)
  | .handle text intent =>
    if (e.handle text intent).isCaptured then
      (e.named?.map fun handler => (text, handler)).toList
    else []
  | _ => []

end Engine

/-- An engine, with the texts that were captured since the running workflow was
activated and the handlers that took them. -/
structure Ledger (ε : Type u) where
  engine : Engine (ContextHandler ε)
  captured : List (String × ContextHandler ε) := []

namespace Ledger

/-- The ledger after a request. -/
def serve (l : Ledger ε) (r : Request ε) : Ledger ε where
  engine := l.engine.serve r
  captured :=
    if (l.engine.serve r).isActive then l.captured ++ l.engine.captures r
    else []

/-- The fold of `onMemory` over the captured texts. -/
def memory (l : Ledger ε) : Memory :=
  l.captured.foldl (fun m (text, handler) => handler.onMemory m text) {}

end Ledger

-- =============================================================== inputs

namespace Engine

/-- The result of a plan for an input, where handlers keep to their contexts.
-/
def Plan.result (text : String) (p : Plan (ContextHandler ε)) :
    Result (ContextHandler ε) ε :=
  match p.course with
  | .capture handler a s =>
    let (context, fault) := handler text a.context
    let e := p.engine.writeContext a.serial context
    match fault with
    | some fault => ⟨e, p.entries, .error (.handler fault)⟩
    | none =>
      ⟨e, p.entries, (Outcome.done <$> e.captured s).mapError .engine⟩
  | .failed fault => ⟨p.engine, p.entries, .error (.engine fault)⟩
  | .ignored => ⟨p.engine, p.entries, .ok .ignored⟩
  | .leave a template =>
    ⟨{ p.engine with active := none }, p.carryOut.entries,
      .ok (.done (.exitWorkflow a.workflow
        (Template.render template a.context) a.context))⟩
  | .arrive a workflow key template =>
    ⟨p.engine, p.carryOut.entries, .ok (.done (.enterState workflow key
      (Template.render template a.context)))⟩

theorem handle_eq (e : Engine (ContextHandler ε)) (text intent : String) :
    e.handle text intent = (e.plan text intent).result text := by
  unfold handle advance
  generalize e.plan text intent = p
  obtain ⟨engine, entries, course⟩ := p
  cases course with
  | _ => rfl

section

variable {e e' : Engine (ContextHandler ε)} {a : Activation}
  {text intent : String}
  (hgoes : (e.plan text intent).Continues e' a)
  (hkeeps : ∀ handler, e.named? = some handler →
    ContextHandler.KeepsToMemory handler)
include hgoes hkeeps

/-- An input continues the memory of its activation, folded over what it
`captures`; the context of an exit carries the memory unfolded. -/
theorem handle_memory :
    (e.handle text intent).engine.handlers = e'.handlers
      ∧ (∀ b, (e.handle text intent).engine.active = some b →
        b.context.memory = (e.captures (.handle text intent)).foldl
          (fun m (text, handler) => handler.onMemory m text)
          a.context.memory)
      ∧ ∀ workflow message context, (e.handle text intent).outcome
          = .ok (.done (.exitWorkflow workflow message context)) →
        context.memory = a.context.memory := by
  obtain ⟨b, hab, hrunning⟩ := hgoes.engine
  have hcourse := hgoes.course
  have hhook : ∀ handler, (e.plan text intent).course.hook? = some handler →
      e.named? = some handler := fun handler h => plan_hook h
  rw [captures, handle_eq]
  generalize e.plan text intent = p at hrunning hcourse hhook
  obtain ⟨engine, entries, course⟩ := p
  have hrunning : engine = e'.running b := hrunning
  subst hrunning
  have hstay : ∀ c, (e'.running b).active = some c →
      c.context.memory = a.context.memory := by
    intro c hc
    cases hc
    exact hab.memory
  cases course with
  | ignored => exact ⟨rfl, hstay, nofun⟩
  | failed fault => exact ⟨rfl, hstay, nofun⟩
  | leave c template =>
      refine ⟨rfl, nofun, ?_⟩
      intro workflow message context houtcome
      cases houtcome
      exact hstay c (hcourse c rfl)
  | arrive c workflow key template => exact ⟨rfl, hstay, nofun⟩
  | capture handler c s =>
      have hc : b = c := Option.some.inj (hcourse c rfl)
      subst hc
      have hnamed := hhook handler rfl
      have htook := hkeeps handler hnamed text b.context
      let context := b.context.withMemory
        (ContextHandler.onMemory handler b.context.memory text)
      have hwritten : (e'.running b).writeContext b.serial context
          = e'.running { b with context } := by
        unfold writeContext running
        simp only [Option.map_some, if_true]
      have hresult : Plan.result text
            { engine := e'.running b, entries, course := .capture handler b s }
          = ⟨e'.running { b with context }, entries, .ok (.done (.inputCaptured
            b.workflow ((b.state.filter (· ≠ "")).getD s.id)))⟩ := by
        unfold Plan.result
        simp only [htook]
        rw [hwritten]
        rfl
      rw [hresult, hnamed]
      refine ⟨rfl, ?_, nofun⟩
      intro c hc
      cases hc
      show context.memory
        = ContextHandler.onMemory handler a.context.memory text
      rw [← hab.memory]
      rfl

end

end Engine

-- ================================================================ ledgers

namespace Ledger

/-- The ledger's invariant: the running workflow remembers the `memory` of the
ledger, the handlers of the table keep to the memory, and an idle engine has
captured nothing. -/
structure Faithful (l : Ledger ε) : Prop where
  table : ∀ name handler, l.engine.handlers.get? name = some handler →
    ContextHandler.KeepsToMemory handler
  active : ∀ a, l.engine.active = some a → a.context.memory = l.memory
  idle : l.engine.active = none → l.captured = []

theorem Faithful.named {l : Ledger ε} (h : l.Faithful)
    {handler : ContextHandler ε} (hnamed : l.engine.named? = some handler) :
    ContextHandler.KeepsToMemory handler := by
  obtain ⟨s, -, hs⟩ := Option.bind_eq_some_iff.1 hnamed
  obtain ⟨name, -, hname⟩ := Option.bind_eq_some_iff.1 hs
  exact h.table name handler hname

theorem captured_of_active {l : Ledger ε} {r : Request ε} {a : Activation}
    (h : (l.engine.serve r).active = some a) :
    (l.serve r).captured = l.captured ++ l.engine.captures r := by
  have hactive : (l.engine.serve r).isActive = true := by
    rw [Engine.isActive, h]
    rfl
  rw [Ledger.serve, hactive, if_pos rfl]

theorem captured_of_idle {l : Ledger ε} {r : Request ε}
    (h : (l.engine.serve r).active = none) : (l.serve r).captured = [] := by
  have hidle : (l.engine.serve r).isActive = false := by
    rw [Engine.isActive, h]
    rfl
  rw [Ledger.serve, hidle]
  rfl

/-- A request that captures nothing, and leaves the running workflow alone or
drops it, keeps a ledger `Faithful`. -/
theorem Faithful.serve_quiet {l : Ledger ε} (h : l.Faithful)
    {r : Request ε} (hcaptures : l.engine.captures r = [])
    (hactive : (l.engine.serve r).active = l.engine.active
      ∨ (l.engine.serve r).active = none)
    (htable : ∀ name handler,
      (l.engine.serve r).handlers.get? name = some handler →
      ContextHandler.KeepsToMemory handler) : (l.serve r).Faithful := by
  refine ⟨htable, ?_, fun hidle => captured_of_idle hidle⟩
  intro a ha
  have hsame : l.engine.active = some a := by
    rcases hactive with hsame | hnone
    · exact hsame.symm.trans ha
    · exact absurd (hnone.symm.trans ha) nofun
  rw [memory, captured_of_active ha, hcaptures, List.append_nil]
  exact h.active a hsame

/-- An input is ignored, or continues an activation with the ledger's `memory`.
-/
theorem Faithful.goes {l : Ledger ε} (h : l.Faithful)
    (text intent : String) :
    (l.engine.active = none ∧ l.engine.handle text intent
        = { engine := l.engine, entries := [], outcome := .ok .ignored })
      ∨ ∃ e a, (l.engine.plan text intent).Continues e a
        ∧ e.handlers = l.engine.handlers ∧ a.context.memory = l.memory := by
  cases hactive : l.engine.active with
  | some a =>
      exact .inr ⟨l.engine, a, Engine.plan_continues hactive text intent, rfl,
        h.active a hactive⟩
  | none =>
      rcases Engine.plan_idle hactive text intent
        with ⟨-, heq⟩ | ⟨d, -, -, hgoes⟩
      · left
        rw [Engine.handle_eq, heq]
        exact ⟨rfl, rfl⟩
      · refine .inr ⟨_, _, hgoes, rfl, ?_⟩
        rw [memory, h.idle hactive]
        rfl

/-- The request `handle` keeps a ledger `Faithful`: what it captures is
recorded, and nothing else. -/
theorem Faithful.serve_handle {l : Ledger ε} (h : l.Faithful)
    (text intent : String) : (l.serve (.handle text intent)).Faithful := by
  rcases h.goes text intent
    with ⟨hidle, hignored⟩ | ⟨e, a, hgoes, htable, hmemory⟩
  · have hsame : l.engine.serve (.handle text intent) = l.engine :=
      congrArg Engine.Result.engine hignored
    refine ⟨?_, ?_, fun h' => captured_of_idle h'⟩
    · rw [show (l.serve (.handle text intent)).engine = _ from hsame]
      exact h.table
    · intro a ha
      have ha : l.engine.active = some a := by
        rw [← hsame]
        exact ha
      rw [hidle] at ha
      cases ha
  · obtain ⟨hhandlers, hactive, -⟩ :=
      Engine.handle_memory hgoes fun handler hn => h.named hn
    refine ⟨?_, ?_, fun h' => captured_of_idle h'⟩
    · intro name handler hname
      refine h.table name handler ?_
      rw [← htable, ← hhandlers]
      exact hname
    · intro b hb
      rw [memory, captured_of_active hb, List.foldl_append, hactive b hb,
        hmemory]
      rfl

/-- Every request keeps a ledger `Faithful`. -/
theorem Faithful.serve {l : Ledger ε} (h : l.Faithful) {r : Request ε}
    (hr : r.KeepsToMemory) : (l.serve r).Faithful := by
  cases r with
  | handle text intent => exact h.serve_handle text intent
  | announce message => exact h.serve_quiet rfl (.inl rfl) h.table
  | reset => exact h.serve_quiet rfl (.inr rfl) h.table
  | register d => exact h.serve_quiet rfl (.inl rfl) h.table
  | loadBatch text =>
      have hsame : (l.engine.serve (.loadBatch text)).active = l.engine.active
          ∧ (l.engine.serve (.loadBatch text)).handlers
            = l.engine.handlers := by
        simp only [Engine.serve]
        cases l.engine.registry.loadBatch text with
        | error fault => exact ⟨rfl, rfl⟩
        | ok loaded => exact ⟨rfl, rfl⟩
      refine h.serve_quiet rfl (.inl hsame.1) ?_
      rw [hsame.2]
      exact h.table
  | registerHandler name handler =>
      refine h.serve_quiet rfl (.inl rfl) ?_
      intro name' handler' hget
      have hget : (l.engine.handlers.put name handler).get? name'
          = some handler' := hget
      rw [Catalog.get?_put] at hget
      by_cases hname : name' = name
      · rw [if_pos hname] at hget
        cases hget
        exact hr
      · rw [if_neg hname] at hget
        exact h.table name' handler' hget

end Ledger

end Colloquy
