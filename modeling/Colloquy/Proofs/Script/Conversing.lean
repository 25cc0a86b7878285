/-
Conversations: inputs to an engine, one after another, and the action that
each of them comes to. `Engine.Converses` is about the engine and speaks of
every calm stage that it may stand on: what else is on such a stage, who
listens and who raises play no part in what the engine says.

Conversations follow one another (`Converses.trans`), so a long one is put
together from what single inputs come to. There are two kinds of those:
the plan says the action (`converses_of_replies`), or a handler takes the
input (`converses_of_gathering`). At a state that takes whatever it hears,
every input is taken, by induction over the inputs (`At.converses_taking`).
-/
import Colloquy.Proofs.Engine.Speaking
import Colloquy.Proofs.Gathering
import Colloquy.Proofs.Script.Faultless

namespace Colloquy

namespace Script

-- ========================================================== utterances

/-- A text, and the intent that it was taken for. -/
structure Utterance where
  text : String
  intent : String

/-- The input with the text and the intent of an utterance. -/
def Utterance.operation (u : Utterance) : Operation := .handle u.text u.intent

/-- The text of the utterance matches an exit phrase of `d`. -/
def Utterance.Closes (u : Utterance) (d : Definition) : Prop :=
  d.matchesExitPhrase u.text = true

instance (u : Utterance) (d : Definition) : Decidable (u.Closes d) :=
  inferInstanceAs (Decidable (_ = true))

theorem Utterance.not_closes {u : Utterance} {d : Definition}
    (h : ¬ u.Closes d) : d.matchesExitPhrase u.text = false :=
  Bool.eq_false_iff.2 h

theorem Utterance.calm (u : Utterance) : u.operation.Calm := ⟨rfl, nofun⟩

/-- Runs of `runAll` compose. -/
theorem runAll_append (ops more : List Operation) (s : Stage) :
    runAll (ops ++ more) s
      = ((runAll ops s).1 ++ (runAll more (runAll ops s).2).1,
        (runAll more (runAll ops s).2).2) := by
  induction ops generalizing s with
  | nil => rfl
  | cons op rest ih =>
      have hrest := ih (run op s).2
      show ((run op s).1 :: (runAll (rest ++ more) (run op s).2).1,
        (runAll (rest ++ more) (run op s).2).2) = _
      rw [hrest]
      rfl

-- ======================================================= single inputs

/-- A handler that gathers texts writes to the context of the running
activation, and changes nothing else of the engine. -/
theorem touch_plain (text : String) (h : Handler) {a : Activation} {s : Stage}
    (hs : s.Clear) (hactive : s.engine.active = some a) :
    ∃ t, touch text a (.plain h) s = (.ok (), t)
      ∧ t.engine = s.engine.writeContext a.serial (h.run text a.context) := by
  have hdraft : s.draft a.serial = .ofContext s.rows a.context := by
    unfold Stage.draft
    rw [hs.strays, contextOf_active hactive]
    rfl
  unfold touch
  dsimp only
  unfold edit
  rw [get_bind_apply, hdraft]
  simp only [Draft.gather_ofContext]
  exact ⟨s.write a.serial (.ofContext s.rows (h.run text a.context)), rfl, rfl⟩

end Script

namespace Engine

open Script

-- ======================================================= conversations

/-- From every `Calm` stage with engine `e`, the utterances are answered by the
actions, and the engine is `e'` then. -/
def Converses (e : Engine Hook) (us : List Utterance) (actions : List Action)
    (e' : Engine Hook) : Prop :=
  ∀ s : Stage, s.Calm → s.engine = e →
    ∃ t, runAll (us.map Utterance.operation) s
        = (actions.map fun action => .ok (.outcome (.done action) none), t)
      ∧ t.Calm ∧ t.engine = e'

variable {e e' e'' : Engine Hook} {u : Utterance} {action : Action}

/-- No utterances are answered by no actions. -/
theorem Converses.nil (e : Engine Hook) : e.Converses [] [] e :=
  fun s hs he => ⟨s, rfl, hs, he⟩

/-- Conversations compose. -/
theorem Converses.trans {us vs : List Utterance} {actions more : List Action}
    (h : e.Converses us actions e') (hmore : e'.Converses vs more e'') :
    e.Converses (us ++ vs) (actions ++ more) e'' := by
  intro s hs he
  obtain ⟨t, hfirst, ht, het⟩ := h s hs he
  obtain ⟨v, hrest, hv, hev⟩ := hmore t ht het
  refine ⟨v, ?_, hv, hev⟩
  rw [List.map_append, runAll_append, hfirst]
  dsimp only
  rw [hrest, List.map_append]

theorem Converses.cons {us : List Utterance} {actions : List Action}
    (h : e.Converses [u] [action] e') (hrest : e'.Converses us actions e'') :
    e.Converses (u :: us) (action :: actions) e'' := h.trans hrest

/-- An input that settles on an action is answered by it. -/
theorem converses_of_settle
    (h : ∀ s : Stage, s.Calm → s.engine = e → ∃ news t,
      settle u.operation s = (.ok (.outcome (.done action) none, news), t)
        ∧ t.engine = e') :
    e.Converses [u] [action] e' := by
  intro s hs he
  obtain ⟨news, t, hsettle, ht⟩ := h s hs he
  obtain ⟨hresult, halone, -, -⟩ :=
    run_heard u.calm.direct rfl hs.keeps hs.passive
  have hengine := Stage.engine_eq_of_alone halone
  rw [hsettle] at hresult hengine
  refine ⟨(run u.operation s).2, ?_, run_calm u.calm hs, hengine.trans ht⟩
  show ([(run u.operation s).1], (run u.operation s).2) = _
  rw [hresult]
  rfl

/-- An input whose plan `Replies` with an action is answered by it. -/
theorem converses_of_replies (h : (e.plan u.text u.intent).Replies action e') :
    e.Converses [u] [action] e' := by
  apply converses_of_settle
  rintro s hs rfl
  obtain ⟨t, hcarry, ht, -⟩ := carryOut_calm hs.clear u.text u.intent
  rw [h.1] at hcarry
  refine ⟨[(action, none)], t, ?_, ht.trans h.2⟩
  show settle (.handle u.text u.intent) s = _
  simp only [settle]
  rw [get_bind_apply, bind_of_ok hcarry]
  rfl

/-- An input whose plan captures for a handler that gathers texts is answered
by an `inputCaptured`, and the context alone changes. -/
theorem converses_of_gathering {d : Definition} {key : String} {state : State}
    {a : Activation} {h : Handler}
    (hplan : e.plan u.text u.intent
      = { engine := e.running a, course := .capture (.plain h) a state })
    (hat : (e.running a).At d key state a) (hkey : key ≠ "") :
    e.Converses [u] [.inputCaptured d.id key]
      (e.running { a with context := h.run u.text a.context }) := by
  apply converses_of_settle
  rintro s hs rfl
  obtain ⟨t, hcarry, ht, hclear⟩ := carryOut_calm hs.clear u.text u.intent
  rw [hplan] at hcarry ht
  have hrunning : t.engine = s.engine.running a := ht
  have hactive : t.engine.active = some a := by
    rw [hrunning]
    rfl
  obtain ⟨v, htouch, hv⟩ := touch_plain u.text h hclear hactive
  rw [hrunning, writeContext_running] at hv
  have hcaptured : v.engine.captured state
      = .ok (.inputCaptured d.id key) := by
    rw [hv]
    exact (hat.remembering (h.run u.text a.context)).captured hkey
  refine ⟨[(.inputCaptured d.id key, none)], v, ?_, hv⟩
  show settle (.handle u.text u.intent) s = _
  simp only [settle]
  rw [get_bind_apply, hplan, bind_of_ok hcarry]
  dsimp only [Plan.carryOut]
  rw [bind_of_ok htouch, get_bind_apply, hcaptured]
  rfl

/-- Where the engine is `At` a state, no utterances leave it there. -/
theorem At.converses_nil {d : Definition} {key : String} {state : State}
    {a : Activation} (hat : e.At d key state a) :
    e.Converses [] [] (e.running a) := by
  rw [running_eq hat.active]
  exact .nil e

/-- At a state that `Gathers`, every text goes to the handler, whatever it was
taken for, until one closes the workflow. -/
theorem At.converses_taking {d : Definition} {key name : String}
    {state : State} {a : Activation} {h : Handler} (hat : e.At d key state a)
    (hkey : key ≠ "") (hstate : state.Gathers name) (us : List Utterance)
    (hhook : e.handlers.get? name = some (.plain h))
    (hopen : ∀ u ∈ us, ¬ u.Closes d) :
    e.Converses us (us.map fun _ => .inputCaptured d.id key)
      (e.running { a with
        context := h.taking (us.map (·.text)) a.context }) := by
  induction us generalizing e a with
  | nil => exact hat.converses_nil
  | cons u rest ih =>
      obtain ⟨hfirst, hrest⟩ := List.forall_mem_cons.1 hopen
      have hplan : e.plan u.text u.intent
          = { engine := e.running a.counted
              course := .capture (.plain h) a.counted state } :=
        hat.plan_gathering (Utterance.not_closes hfirst) hstate hhook
      have hone := converses_of_gathering hplan (hat.remembering _) hkey
      exact hone.cons (ih (hat.remembering _) hhook hrest)

end Engine
end Colloquy
