/-
What the engine says to an input, word for word. A plan that is spoken of
makes one action and leaves one engine (`Plan.Replies`). At a state of a
registered definition all of it can be read off the definition: the exit
message when a phrase ends the workflow (`At.replies_closing`), the message
of a target that leads out or to a state (`follow_replies_leaving`,
`follow_replies_entering`), and which handler takes the input where the
state has no transition for it (`At.plan_gathering`).

The state that is entered is known with its counts of turns, so what is
said can be followed from one input to the next.
-/
import Colloquy.Proofs.Engine.Caps

namespace Colloquy

universe u

/-- The activation as it enters the state under `key`; `stateTurnCount` starts
anew unless that state was active before. -/
def Activation.entering (a : Activation) (key : String) : Activation :=
  { a with
    state := some key
    context := if a.state = some key then a.context
      else { a.context with stateTurnCount := 0 } }

/-- The state has the handler `name`, and neither transitions nor a cap. -/
structure State.Gathers (s : State) (name : String) : Prop where
  handler : s.handlerName? = some name
  transitions : s.transitions = .empty
  cap : s.turnCap = none

theorem State.Gathers.targetFor {s : State} {name : String}
    (h : s.Gathers name) (intent : String) : s.targetFor intent = none := by
  unfold State.targetFor
  rw [h.transitions]
  rfl

namespace Engine

variable {H : Type u} {e e' : Engine H} {a : Activation} {d : Definition}
  {key : String} {s : State} {action : Action}

-- =============================================================== plans

/-- Carried out, the plan gives `action` and leaves the engine `e`. -/
def Plan.Replies (p : Plan H) (action : Action) (e : Engine H) : Prop :=
  p.carryOut.step = .settled (.done action) ∧ p.carryOut.engine = e

theorem Plan.Replies.after {p : Plan H} (h : p.Replies action e)
    (entry : Log.Entry) : (p.after entry).Replies action e := by
  obtain ⟨engine, entries, course⟩ := p
  cases course with
  | _ => exact h

/-- What `exit` replies is an `exitWorkflow` with the message rendered, and the
engine is idle. -/
theorem exit_replies (hd : e.definition? a = some d)
    (message : Option String) :
    (e.exit a message).Replies
      (.exitWorkflow a.workflow
        (Template.render (message.getD d.exitMessage) a.context) a.context)
      e.reset := by
  unfold exit
  rw [hd]
  exact ⟨rfl, rfl⟩

/-- What `enter` replies is an `enterState` with `message` rendered, or else
the state's `onEnter`. -/
theorem enter_replies (hd : e.definition? a = some d)
    (hs : d.states.get? key = some s) (message : Option String) :
    (e.enter a key message).Replies
      (.enterState d.id key
        (Template.render (message.getD s.onEnter) (a.entering key).context))
      (e.running (a.entering key)) := by
  unfold enter
  rw [hd, Option.bind_some, hs]
  exact ⟨rfl, rfl⟩

/-- From an idle engine, a trigger replies with the `onEnter` of the initial
state, over an empty context. -/
theorem replies_starting (hidle : e.active = none) {intent : String}
    (hd : e.registry.findByTrigger intent = some d)
    (hs : d.states.get? d.initial = some s) (text : String) :
    (e.plan text intent).Replies
      (.enterState d.id d.initial (Template.render s.onEnter {}))
      ((e.activating d).running ((e.activation d).entering d.initial)) := by
  rcases plan_idle hidle text intent with ⟨hnone, -⟩ | ⟨d', hd', heq, -⟩
  · rw [hnone] at hd
    cases hd
  · rw [hd] at hd'
    cases hd'
    have hdefinition :
        (e.activating d).definition? (e.activation d) = some d :=
      Registry.get?_of_findByTrigger hd
    rw [heq]
    exact (enter_replies hdefinition hs none).after _

-- ============================================================= standings

/-- An engine with another activation of the same workflow at the same state is
`At` that state too. -/
theorem At.running (h : e.At d key s a) {b : Activation}
    (hworkflow : b.workflow = a.workflow) (hstate : b.state = a.state) :
    (e.running b).At d key s b :=
  ⟨rfl, hworkflow.trans h.workflow, hstate.trans h.state, h.registered,
    h.stated⟩

/-- Where an engine is `At` does not depend on the context. -/
theorem At.remembering (h : e.At d key s a) (context : Context) :
    (e.running { a with context }).At d key s { a with context } :=
  h.running rfl rfl

/-- An exit phrase replies with the exit message. -/
theorem At.replies_closing (h : e.At d key s a) {text : String}
    (hphrase : d.matchesExitPhrase text = true) (intent : String) :
    (e.plan text intent).Replies
      (.exitWorkflow d.id (Template.render d.exitMessage a.context) a.context)
      e.reset := by
  have hends : e.endsBy a text = true := by
    unfold endsBy
    rw [h.definition]
    exact hphrase
  rw [plan_of_endsBy h.active hends, ← h.workflow]
  exact (exit_replies h.definition none).after _

section Targets

variable {text intent : String} {t : Target}

/-- A target that `isExit` and has a message replies with it. -/
theorem follow_replies_leaving (h : e.At d key s a) (hexit : t.isExit = true)
    {message : String} (hmessage : t.message = some message) :
    (e.follow a t).Replies
      (.exitWorkflow d.id (Template.render message a.context) a.context)
      e.reset := by
  unfold follow
  rw [if_pos hexit, hmessage, ← h.workflow]
  exact exit_replies h.definition (some message)

/-- A target that `LeadsTo` a state replies with its own message, or else the
state's `onEnter`. -/
theorem follow_replies_entering (h : e.At d key s a) {key' : String}
    {s' : State}
    (hleads : t.LeadsTo key') (hs' : d.states.get? key' = some s') :
    (e.follow a t).Replies
      (.enterState d.id key' (Template.render (t.message.getD s'.onEnter)
        (a.entering key').context))
      (e.running (a.entering key')) := by
  unfold follow
  rw [if_neg (Bool.eq_false_iff.1 hleads.1), hleads.2]
  exact enter_replies h.definition hs' t.message

variable (h : e.At d key s a) (hphrase : d.matchesExitPhrase text = false)
include h hphrase

/-- Up to the cap, the target that `targetFor` finds is followed, with the
input counted. -/
theorem At.plan_following
    (hcap : ∀ cap, s.turnCap = some cap → a.context.stateTurnCount < cap)
    (htarget : s.targetFor intent = some t) :
    e.plan text intent = (e.running a.counted).follow a.counted t := by
  rw [h.plan_ordinary hphrase hcap]
  unfold ordinary
  rw [htarget]

/-- At a state that `Gathers`, the input is captured for its handler. -/
theorem At.plan_gathering {name : String} (hs : s.Gathers name) {hook : H}
    (hhook : e.handlers.get? name = some hook) :
    e.plan text intent
      = { engine := e.running a.counted
          course := .capture hook a.counted s } := by
  have hcap : ∀ cap, s.turnCap = some cap
    → a.context.stateTurnCount < cap := by
    rw [hs.cap]
    exact nofun
  rw [h.plan_ordinary hphrase hcap]
  unfold ordinary offer
  rw [hs.targetFor, hs.handler]
  have hfound : (e.running a.counted).handlers.get? name = some hook := hhook
  dsimp only
  rw [hfound]

end Targets

/-- Where the engine is `At` a state, the action after a handler ran is an
`inputCaptured` with its key. -/
theorem At.captured (h : e.At d key s a) (hkey : key ≠ "") :
    e.captured s = .ok (.inputCaptured d.id key) := by
  unfold Engine.captured
  rw [h.active]
  dsimp only
  rw [h.workflow, h.state, Option.filter_some, if_pos (by simpa using hkey)]
  rfl

end Engine
end Colloquy
