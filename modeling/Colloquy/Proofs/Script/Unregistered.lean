/-
Handlers that are not registered. Two engines have the same handlers and the
same definitions, but for one: on the right, its states lose the names of
handlers that the table does not have. As long as no handler is registered,
whatever listeners and handlers do, the two go on abreast: inputs come to
the same, the same is remembered, and listeners hear the same
(`runAll_unregistered`). For an input a state whose handler is not
registered has no handler.

For a session it has one. Whether the active state takes every input as
content is read off the definition, and the table is not asked. So the two
engines may disagree on it, just where the active state names a missing
handler on one side and none on the other (`Twins.capturing`). There a text
is classified on one side only (`unregistered_captures`), and the two turns
differ in what is said of it; everywhere else they are equal
(`Twins.turns`).
-/
import Colloquy.Proofs.Script.Bypass

namespace Colloquy

namespace Script

-- ================================================================ regime

/-- The regime under which fair operations bring no program. -/
def unregistering (keep : String → Bool) : Regime where
  keep := keep
  fair op := op.brings = []
  suits op h := by
    cases op with
    | registerHandler name program => cases h
    | _ => trivial

theorem Operation.suits_unregistering {op : Operation} (h : op.brings = [])
    (keep : String → Bool) :
    op.Suits (unregistering keep).keep (unregistering keep).fair :=
  (unregistering keep).suits op h

-- ================================================================== turns

section Turns

variable {inner : Operation → Run Reply} {s : Stage} {text : String}
  {turn : Session.Turn} {stray : Option Stray} {calls : List String}

theorem takeContent_bypassed
    (h : (takeContent inner text s).1 = .ok (.turn turn stray calls)) :
    turn.bypassed = true := by
  obtain ⟨⟨outcome, ending⟩, t, -, hreply⟩ := bind_eq_ok h
  cases hreply
  rfl

theorem takeSaid_bypassed {said : Classification}
    (h : (takeSaid inner text said s).1 = .ok (.turn turn stray calls)) :
    turn.bypassed = false := by
  obtain ⟨⟨outcome, ending⟩, t, -, hrest⟩ := bind_eq_ok h
  cases hrest
  rfl

/-- A turn is `bypassed` just if the engine was capturing. -/
theorem process_bypassed
    (h : (process inner text s).1 = .ok (.turn turn stray calls)) :
    turn.bypassed = s.engine.isCapturing := by
  rcases process_cases inner text s
    with ⟨-, hprocess⟩ | ⟨-, hcapture, hprocess⟩ | ⟨-, hcapture, hprocess⟩
  · rw [hprocess] at h
    cases h
  · rw [hprocess] at h
    rw [hcapture]
    exact takeContent_bypassed h
  · rw [hprocess] at h
    rw [hcapture]
    exact takeSaid_bypassed h

end Turns

-- ================================================================== twins

/-- How two engines compare that differ in the names of handlers which nobody
registered, together with those around them. The same is running in the same
state, the same is remembered, and what was seen is `Alike`. Both capture or
neither does, unless the handler that the active state names is missing on one
side and not on the other. A text leads both sides to the same; what is said of
it is the same just where both capture or neither does, and just there the
classifier is called on both sides or on neither. -/
structure Twins (keep : String → Bool) (s s' : Stage) : Prop where
  active : s.engine.active = s'.engine.active
  remembered : s.ended = s'.ended ∧ s.strays = s'.strays ∧ s.rows = s'.rows
  seen : List.Forall₂ (Event.Alike keep) s.events s'.events
  served : s.engine.isServed = s'.engine.isServed
  capturing : s.engine.isCapturing = s'.engine.isCapturing
    ↔ s.engine.isUnserved = s'.engine.isUnserved
  turns : ∀ text turn turn' stray stray' calls calls',
    (run (.process text) s).1 = .ok (.turn turn stray calls) →
    (run (.process text) s').1 = .ok (.turn turn' stray' calls') →
    turn.text = turn'.text ∧ turn.outcome = turn'.outcome ∧ stray = stray'
      ∧ (turn = turn' ↔ s.engine.isCapturing = s'.engine.isCapturing)
  asks : s.KeepsToContexts → s.Passive →
    ∀ text, (Text.trim text).isEmpty = false →
    ((run (.process text) s).2.calls = (run (.process text) s').2.calls
      ↔ s.engine.isCapturing = s'.engine.isCapturing)

section Twins

variable {c : Regime} {s s' : Stage}

theorem Stage.Alike.capturing_iff (h : s.Alike c s') :
    s.engine.isCapturing = s'.engine.isCapturing
      ↔ s.engine.isUnserved = s'.engine.isUnserved := by
  have hserved := Engine.isServed_eq h.engine h.keeps
  constructor
  · intro hcapture
    rw [Engine.isUnserved_eq, Engine.isUnserved_eq, hcapture, hserved]
  · intro hunserved
    rw [Engine.isCapturing_eq, Engine.isCapturing_eq, hserved, hunserved]

/-- Two turns of one text on stages that are `Alike` are equal just if both
engines capture or neither does; they differ at most in what is said of the
text. -/
theorem Stage.Alike.turns (h : s.Alike c s') {text : String}
    {turn turn' : Session.Turn} {stray stray' : Option Stray}
    {calls calls' : List String}
    (hleft : (run (.process text) s).1 = .ok (.turn turn stray calls))
    (hright : (run (.process text) s').1 = .ok (.turn turn' stray' calls')) :
    turn.text = turn'.text ∧ turn.outcome = turn'.outcome ∧ stray = stray'
      ∧ (turn = turn' ↔ s.engine.isCapturing = s'.engine.isCapturing) := by
  have hbypassed : ∀ {s : Stage} {turn stray calls},
      (run (.process text) s).1 = .ok (.turn turn stray calls) →
      turn.bypassed = s.engine.isCapturing := by
    intro s turn stray calls hturn
    rw [run_result] at hturn
    have hblank := @process_bypassed run { s with journal := [] } text turn
      stray calls hturn
    exact hblank
  have houtcome := (@run_abreast c s s' (.process text) trivial h).outcome
  rw [hleft, hright] at houtcome
  rw [← hbypassed hleft, ← hbypassed hright]
  cases houtcome with
  | ok hreply =>
      cases hreply with
      | same => exact ⟨rfl, rfl, rfl, fun _ => rfl, fun _ => rfl⟩
      | turn stray calls calls' htext houtcome hsaid =>
          exact ⟨htext, houtcome, rfl, congrArg Session.Turn.bypassed, hsaid⟩

/-- On stages that are `Alike`, `process` has the same calls just if both
engines capture or neither does. -/
theorem Stage.Alike.asks (h : s.Alike c s') (hkeeps : s.KeepsToContexts)
    (hpassive : s.Passive) {text : String}
    (htext : (Text.trim text).isEmpty = false) :
    (run (.process text) s).2.calls = (run (.process text) s').2.calls
      ↔ s.engine.isCapturing = s'.engine.isCapturing := by
  have hkeeps' : s'.KeepsToContexts := by
    unfold Stage.KeepsToContexts
    rw [← h.programs]
    exact hkeeps
  have hpassive' : s'.Passive := by
    unfold Stage.Passive
    rw [← h.listeners]
    exact hpassive
  rw [(Stage.asksOnce hkeeps hpassive).asked,
    (Stage.asksOnce hkeeps' hpassive').asked, htext]
  cases s.engine.isCapturing <;> cases s'.engine.isCapturing <;> simp

/-- Stages that are `Alike` are `Twins`. -/
theorem Stage.Alike.twins (h : s.Alike c s') : Twins c.keep s s' := by
  have hended := congrArg Stage.ended h.outline
  have hstrays := congrArg Stage.strays h.outline
  have hrows := congrArg Stage.rows h.outline
  exact ⟨h.active, ⟨hended, hstrays, hrows⟩, h.events,
    Engine.isServed_eq h.engine h.keeps, h.capturing_iff,
    fun _ _ _ _ _ _ _ hleft hright => h.turns hleft hright,
    fun hkeeps hpassive _ htext => h.asks hkeeps hpassive htext⟩

end Twins

-- =================================================================== runs

/-- The stage with `d` registered. -/
def Stage.registering (s : Stage) (d : Definition) : Stage :=
  { s with
    engine := { s.engine with registry := s.engine.registry.register d } }

/-- A definition and the same without the names of handlers that are not
registered: as long as no handler is, every operation comes to the same for
both, up to what is said of a text, and the stages stay `Twins`. -/
theorem runAll_unregistered (ops : List Operation) (s : Stage)
    (d : Definition) (hops : ∀ op ∈ ops, op.brings = [])
    (hreacts : s.Reacts fun op => op.brings = [])
    (hoperates : s.Operates fun op => op.brings = []) :
    let keep := s.engine.handlers.contains
    let left := runAll ops (s.registering d)
    let right := runAll ops (s.registering (d.pruned keep))
    List.Forall₂ (Outcomes (Reply.Alike keep)) left.1 right.1
      ∧ Twins keep left.2 right.2 := by
  intro keep left right
  have hs : s.Alike (unregistering keep) s :=
    .refl (fun _ h => h) hreacts hoperates
  have hstart : (s.registering d).Alike (unregistering keep)
      (s.registering (d.pruned keep)) := by
    refine hs.withRegistry ?_
    show (s.engine.registry.register d).pruned keep
      = (s.engine.registry.register (d.pruned keep)).pruned keep
    rw [Registry.pruned_register, Registry.pruned_register,
      Definition.pruned_pruned]
  obtain ⟨hresults, hstage⟩ := runAll_abreast ops
    (fun op hop => Operation.suits_unregistering (hops op hop) keep) hstart
  exact ⟨hresults, hstage.twins⟩

/-- A workflow whose only state names a handler that nobody registers. -/
def vacant : Definition where
  id := "vacant"
  trigger := "start"
  initial := "a"
  states := .ofList [("a",
    { id := "a", onEnter := "Here.", handler := some "nobody" })]

/-- A stage without that handler. Its listener gives the session a text as
soon as a state is entered. -/
def deserted : Stage where
  engine := {
    handlers := .ofList [("accumulate", .plain Handler.accumulate)] }
  emitter := ({} : Emitter).subscribe .enterState "echo"
  listeners := .ofList [("echo",
    { reactions := [.operate (.process "hello")] })]
  classifier := .ofList [("hello", { intent := "greet" })]
  disk := { find := fun _ => .ok .device }

/-- On `deserted` the left engine captures and the right one does not, and yet
the inputs come to the same. -/
theorem runAll_unregistered_deserted :
    let ops : List Operation := [.handle "" "start", .process "hello", .reset]
    let keep := deserted.engine.handlers.contains
    let left := runAll ops (deserted.registering vacant)
    let right := runAll ops (deserted.registering (vacant.pruned keep))
    left.2.events.length = 2
      ∧ List.Forall₂ (Outcomes (Reply.Alike keep)) left.1 right.1
      ∧ Twins keep left.2 right.2 := by
  intro ops keep left right
  have hops : ∀ op ∈ ops, op.brings = [] := by decide +kernel
  have hreacts : ∀ l ∈ deserted.listeners.values, ∀ r ∈ l.reactions,
      ∀ op ∈ r.runs, op.brings = [] := by decide +kernel
  exact ⟨by decide +kernel,
    runAll_unregistered ops deserted vacant hops hreacts nofun⟩

/-- The intent of a turn, and whether it was `bypassed`. -/
def Reply.said? : Reply → Option (String × Bool)
  | .turn t _ _ => some (t.intent, t.bypassed)
  | _ => none

/-- A state that names a handler which nobody registered does not behave like a
state without one: it `isCapturing`, and a text that comes to it is not
classified. -/
theorem unregistered_captures :
    let entered (d : Definition) : Stage :=
      (run (.handle "" "start") (deserted.registering d)).2
    let left := entered vacant
    let right := entered (vacant.pruned deserted.engine.handlers.contains)
    (left.engine.isCapturing = true ∧ right.engine.isCapturing = false)
      ∧ ((run (.process "hello") left).1.toOption.bind Reply.said?
          = some ("unknown", true)
        ∧ (run (.process "hello") left).2.calls = [])
      ∧ (run (.process "hello") right).1.toOption.bind Reply.said?
          = some ("greet", false)
        ∧ (run (.process "hello") right).2.calls = ["hello"] := by
  decide +kernel

end Script
end Colloquy
