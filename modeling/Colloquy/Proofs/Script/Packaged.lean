/-
The packaged workflows, as they are advertised. On an idle engine that has
them, and the handlers that every table starts with, notes are taken until
they are done, and speech is taken down if that is asked for
(`packaged_as_advertised`). A conversation that has come to its end leaves
the engine as it was wanted in the beginning, so the next one can start.

# The question

Whether to take down speech is asked three times at most. An utterance that
is neither yes nor no leads back to the question, and back is no new stay:
the turns go on counting. So after `n` hesitations the turns in the state
are `n`, and an answer counts while they are fewer than three
(`converses_hesitating`). After the third one, whatever comes next gives
up.

# The messages

What was noted down stands in the exit message as it is, also where it
looks like a placeholder, since a message is not looked through again. The
number of words is that of the buffer; it is the sum over what was said
because no word reaches across the blanks that the handler puts in.
-/
import Colloquy.Proofs.Script.Conversing
import Colloquy.Proofs.Template

namespace Colloquy

-- ======================================================== definitions

namespace Builtins

theorem collectingState_gathers : collectingState.Gathers "bullets" :=
  ⟨rfl, rfl, rfl⟩

theorem recordingState_gathers : recordingState.Gathers "accumulate" :=
  ⟨rfl, rfl, rfl⟩

/-- The message when `confirmState` is entered again. -/
def asksAgain : String :=
  "Sorry, I didn't understand. Do you want to transcribe? Say yes or no."

/-- In `confirmState`, the intent `confirm` leads to the recording. -/
theorem confirmState_confirm :
    confirmState.targetFor "confirm"
      = some { kind := .goto, state := some "recording" } := by
  decide +kernel

/-- In `confirmState`, the intent `deny` leads out. -/
theorem confirmState_deny :
    confirmState.targetFor "deny"
      = some {
          kind := .exit
          message := some "Cancelled. No transcription started." } := by
  decide +kernel

/-- In `confirmState`, every other intent leads back to it. -/
theorem confirmState_again {intent : String} (hconfirm : intent ≠ "confirm")
    (hdeny : intent ≠ "deny") :
    confirmState.targetFor intent
      = some {
          kind := .goto, state := some "confirm", message := asksAgain } := by
  have hwild : confirmState.transitions.get? State.wildcard
      = some {
          kind := .goto, state := some "confirm", message := asksAgain } := by
    decide +kernel
  unfold State.targetFor
  by_cases hstar : intent = State.wildcard
  · rw [hstar, hwild]
    rfl
  · have hnone : confirmState.transitions.get? intent = none := by
      cases hfound : confirmState.transitions.get? intent with
      | none => rfl
      | some target =>
          have hmem : intent ∈ confirmState.transitions.names :=
            List.mem_map_of_mem (Catalog.mem_entries_of_get? hfound)
          have hnames : confirmState.transitions.names
              = ["confirm", "deny", State.wildcard] := rfl
          rw [hnames] at hmem
          simp [hconfirm, hdeny, hstar] at hmem
    rw [hnone, hwild]
    rfl

/-- Beyond its cap, `confirmState` leads out. -/
theorem confirmState_maxTurnsTarget :
    confirmState.maxTurnsTarget
      = { kind := .exit
          message := some
            "Sorry, I couldn't understand. Cancelling transcription." } := by
  decide +kernel

/-- The exit message of `notes` shows the number of turns and the buffer. -/
theorem render_notes (ctx : Context) :
    Template.render notes.exitMessage ctx
      = "Saved " ++ toString ctx.turnCount ++ " notes:\n" ++ ctx.buffer := by
  rw [show notes.exitMessage = "Saved "
    ++ ("\x7b\x7b" ++ "turnCount" ++ "\x7d\x7d"
      ++ (" notes:\n" ++ ("\x7b\x7b" ++ "buffer" ++ "\x7d\x7d" ++ "")))
    from rfl,
    Template.render_plain_append (by decide +kernel),
    Template.render_placeholder (by decide +kernel),
    Template.render_plain_append (by decide +kernel),
    Template.render_placeholder (by decide +kernel)]
  show "Saved " ++ (toString ctx.turnCount ++ (" notes:\n"
    ++ (ctx.buffer ++ ""))) = _
  simp only [String.append_empty, String.append_assoc]

/-- The exit message of `transcribe` shows the number of words. -/
theorem render_transcribe (ctx : Context) :
    Template.render transcribe.exitMessage ctx
      = "Transcript locked. " ++ toString ctx.wordCount
        ++ " words captured." := by
  rw [show transcribe.exitMessage = "Transcript locked. "
    ++ ("\x7b\x7b" ++ "wordCount" ++ "\x7d\x7d" ++ " words captured.")
    from rfl,
    Template.render_plain_append (by decide +kernel),
    Template.render_placeholder (by decide +kernel),
    Template.render_plain (by decide +kernel), ← String.append_assoc]
  rfl

end Builtins

-- =========================================================== engines

open Script Builtins

/-- The utterance is neither `confirm` nor `deny`, and closes nothing. -/
structure Script.Utterance.Hesitates (u : Utterance) : Prop where
  stays : ¬ u.Closes transcribe
  noYes : u.intent ≠ "confirm"
  noNo : u.intent ≠ "deny"

namespace Engine

/-- Every packaged definition is found by its trigger, and the table has
`Handler.builtins`. -/
structure Equipped (e : Engine Hook) : Prop where
  triggers : ∀ d ∈ Builtins.all, e.registry.findByTrigger d.trigger = some d
  handlers : ∀ entry ∈ Handler.builtins,
    e.handlers.get? entry.1 = some (.plain entry.2)

/-- An engine that is `Equipped` and idle. -/
structure Packaged (e : Engine Hook) : Prop extends e.Equipped where
  idle : e.active = none

/-- The utterance is answered by an `exitWorkflow` with this message and
context, and the engine is `Packaged` again. -/
def Concludes (e : Engine Hook) (u : Utterance) (workflow message : String)
    (context : Context) : Prop :=
  ∃ e', e'.Packaged
    ∧ e.Converses [u] [.exitWorkflow workflow message context] e'

/-- Every text is captured at the state under `key`, whatever it was taken for,
until one closes the workflow: message and context of the exit are then made of
all of them. -/
def Takes (e : Engine Hook) (d : Definition) (key : String)
    (message : List String → String) (context : List String → Context) :
    Prop :=
  ∀ us : List Utterance, (∀ u ∈ us, ¬ u.Closes d) →
    ∃ e', e.Converses us (us.map fun _ => .inputCaptured d.id key) e'
      ∧ ∀ finish : Utterance, finish.Closes d →
        e'.Concludes finish d.id (message (us.map (·.text)))
          (context (us.map (·.text)))

/-- From its trigger on, `notes` takes texts, and shows them in the end, with
their number. -/
def TakesNotes (e : Engine Hook) : Prop :=
  ∀ start : Utterance, start.intent = "take_notes" →
    ∃ e', e.Converses [start]
        [.enterState "notes" "collecting" "Go ahead, one note at a time."] e'
      ∧ e'.Takes notes "collecting"
        (fun texts => "Saved " ++ toString texts.length ++ " notes:\n"
          ++ "\n".intercalate (texts.map ("- " ++ ·)))
        (fun texts => {
          buffer := "\n".intercalate (texts.map ("- " ++ ·))
          turnCount := texts.length
          stateTurnCount := texts.length })

/-- After fewer than three hesitations, an answer counts: `deny` cancels, and
`confirm` starts the recording, which tells the number of words in the end.
After three of them, whatever comes next gives up. -/
structure Asks (e : Engine Hook) (hesitations : Nat) : Prop where
  givesUp : hesitations = 3 → ∀ u : Utterance, ¬ u.Closes transcribe →
    e.Concludes u "transcribe"
      "Sorry, I couldn't understand. Cancelling transcription."
      { turnCount := 4, stateTurnCount := 4 }
  denied : hesitations < 3 → ∀ u : Utterance, ¬ u.Closes transcribe →
    u.intent = "deny" →
    e.Concludes u "transcribe" "Cancelled. No transcription started."
      { turnCount := hesitations + 1, stateTurnCount := hesitations + 1 }
  confirmed : hesitations < 3 → ∀ u : Utterance, ¬ u.Closes transcribe →
    u.intent = "confirm" →
    ∃ e', e.Converses [u] [.enterState "transcribe" "recording"
        "Recording. Say \"stop transcribe\" when you are finished."] e'
      ∧ e'.Takes transcribe "recording"
        (fun texts => "Transcript locked. "
          ++ toString (texts.map Text.wordCount).sum ++ " words captured.")
        (fun texts => {
          buffer := Handler.accumulate.gathered "" texts
          turnCount := hesitations + 1 + texts.length
          stateTurnCount := texts.length })

/-- From its trigger on, `transcribe` asks, and asks again after each of up to
three hesitations. -/
def Transcribes (e : Engine Hook) : Prop :=
  ∀ (start : Utterance) (us : List Utterance),
    start.intent = "transcribe" → (∀ u ∈ us, u.Hesitates) → us.length ≤ 3 →
    ∃ e', e.Converses (start :: us)
        (.enterState "transcribe" "confirm" "Do you want to transcribe audio?"
          :: us.map fun _ => .enterState "transcribe" "confirm" asksAgain) e'
      ∧ e'.Asks us.length

variable {e : Engine Hook}

-- ======================================================= being equipped

theorem Equipped.registered (he : e.Equipped) {d : Definition}
    (hd : d ∈ Builtins.all) : e.registry.get? d.id = some d :=
  Registry.get?_of_findByTrigger (he.triggers d hd)

/-- An `Equipped` engine is so whatever is running. -/
theorem Equipped.running (he : e.Equipped) (a : Activation) :
    (e.running a).Equipped := ⟨he.triggers, he.handlers⟩

/-- An `Equipped` engine is `Packaged` after a reset. -/
theorem Equipped.reset (he : e.Equipped) : e.reset.Packaged :=
  ⟨⟨he.triggers, he.handlers⟩, rfl⟩

/-- At a state that `Gathers` for a builtin handler, texts are taken as the
handler gathers them. -/
theorem Equipped.takes (he : e.Equipped) {d : Definition} {key name : String}
    {s : State} {a : Activation} {h : Handler} (hat : e.At d key s a)
    (hkey : key ≠ "") (hs : s.Gathers name)
    (hbuiltin : (name, h) ∈ Handler.builtins) :
    e.Takes d key
      (fun texts => Template.render d.exitMessage (h.taking texts a.context))
      (fun texts => h.taking texts a.context) := by
  intro us hopen
  have hhook := he.handlers (name, h) hbuiltin
  refine ⟨_, hat.converses_taking hkey hs us hhook hopen, ?_⟩
  intro finish hfinish
  have hthere := hat.remembering (h.taking (us.map (·.text)) a.context)
  have hready := (he.running { a with
    context := h.taking (us.map (·.text)) a.context }).reset
  exact ⟨_, hready,
    converses_of_replies (hthere.replies_closing hfinish finish.intent)⟩

/-- On a `Packaged` engine, the trigger of a packaged definition enters its
initial state. -/
theorem Packaged.converses_starting (he : e.Packaged) {d : Definition}
    (hd : d ∈ Builtins.all) {s : State}
    (hs : d.states.get? d.initial = some s) {start : Utterance}
    (hstart : start.intent = d.trigger) :
    ∃ e₁ : Engine Hook, e₁.Equipped
      ∧ e₁.At d d.initial s {
          serial := e.activations
          workflow := d.id
          state := some d.initial }
      ∧ e.Converses [start]
        [.enterState d.id d.initial (Template.render s.onEnter {})] e₁ := by
  have htrigger : e.registry.findByTrigger start.intent = some d := by
    rw [hstart]
    exact he.triggers d hd
  refine ⟨(e.activating d).running ((e.activation d).entering d.initial),
    ⟨he.triggers, he.handlers⟩, ⟨rfl, rfl, rfl, he.registered hd, hs⟩, ?_⟩
  exact converses_of_replies (replies_starting he.idle htrigger hs start.text)

-- =============================================================== notes

/-- A `Packaged` engine takes notes: each text becomes an item, and the items
are shown. -/
theorem Packaged.takesNotes (he : e.Packaged) : e.TakesNotes := by
  intro start hstart
  obtain ⟨e₁, he₁, hat, hbegins⟩ := he.converses_starting
    (d := notes) (by simp [Builtins.all]) (s := collectingState) rfl hstart
  rw [Template.render_plain (by decide +kernel)] at hbegins
  have hcontext : ∀ texts : List String, Handler.bullets.taking texts {}
      = { buffer := "\n".intercalate (texts.map ("- " ++ ·))
          turnCount := texts.length
          stateTurnCount := texts.length } := by
    intro texts
    rw [Handler.taking_eq, Handler.gathered_items (by decide)]
    simp [Handler.bullets]
  have htakes := he₁.takes hat (by decide) collectingState_gathers
    (h := .bullets) (by simp [Handler.builtins])
  simp only [hcontext, render_notes] at htakes
  exact ⟨e₁, hbegins, htakes⟩

-- ============================================================== speech

/-- The activation of `transcribe` as the recording starts, after so many
turns. -/
def recording (serial turns : Nat) : Activation where
  serial := serial
  workflow := "transcribe"
  state := some "recording"
  context := { turnCount := turns }

/-- The recording takes texts, and tells the words of all of them. -/
theorem Equipped.takes_speech (he : e.Equipped) {serial turns : Nat}
    (hat : e.At transcribe "recording" recordingState
      (recording serial turns)) :
    e.Takes transcribe "recording"
      (fun texts => "Transcript locked. "
        ++ toString (texts.map Text.wordCount).sum ++ " words captured.")
      (fun texts => {
        buffer := Handler.accumulate.gathered "" texts
        turnCount := turns + texts.length
        stateTurnCount := texts.length }) := by
  have hcontext : ∀ texts : List String,
      Handler.accumulate.taking texts (recording serial turns).context
        = { buffer := Handler.accumulate.gathered "" texts
            turnCount := turns + texts.length
            stateTurnCount := texts.length } := by
    intro texts
    rw [Handler.taking_eq]
    simp [recording]
  have htakes := he.takes hat (by decide) recordingState_gathers
    (h := .accumulate) (by simp [Handler.builtins])
  simp only [hcontext, render_transcribe, Context.wordCount,
    Handler.wordCount_accumulated, Text.wordCount_empty,
    Nat.zero_add] at htakes
  exact htakes

-- ============================================================ questions

/-- The activation of `transcribe` at `confirmState`, after so many turns. -/
def asking (serial turns : Nat) : Activation where
  serial := serial
  workflow := "transcribe"
  state := some "confirm"
  context := { turnCount := turns, stateTurnCount := turns }

section Question

variable {serial turns : Nat}
  (hat : e.At transcribe "confirm" confirmState (asking serial turns))
include hat

/-- Before the third turn, the target for the intent is followed. -/
theorem At.plan_asking (hturns : turns < 3) {u : Utterance}
    (hstays : ¬ u.Closes transcribe) {t : Target}
    (htarget : confirmState.targetFor u.intent = some t) :
    e.plan u.text u.intent
      = (e.running (asking serial turns).counted).follow
        (asking serial turns).counted t := by
  refine hat.plan_following (Utterance.not_closes hstays) ?_ htarget
  intro cap hcap
  have hthree : (3 : Int) = cap := Option.some.inj hcap
  show (turns : Int) < cap
  omega

/-- A hesitation is answered by `asksAgain`, and one turn more has passed. -/
theorem At.converses_hesitation (hturns : turns < 3) {u : Utterance}
    (hu : u.Hesitates) :
    e.Converses [u] [.enterState "transcribe" "confirm" asksAgain]
      (e.running (asking serial (turns + 1))) := by
  have hreplies := follow_replies_entering
    (hat.remembering (asking serial turns).context.countTurn)
    (t := { kind := .goto, state := some "confirm", message := asksAgain })
    ⟨rfl, rfl⟩ hat.stated
  have hline : ∀ ctx, Template.render asksAgain ctx = asksAgain :=
    Template.render_plain (by decide +kernel)
  rw [Option.getD_some, hline] at hreplies
  refine converses_of_replies ?_
  rw [hat.plan_asking hturns hu.stays (confirmState_again hu.noYes hu.noNo)]
  exact hreplies

/-- Up to three hesitations are each answered by `asksAgain`. -/
theorem At.converses_hesitating (us : List Utterance)
    (hus : ∀ u ∈ us, u.Hesitates) (hle : turns + us.length ≤ 3) :
    e.Converses us
      (us.map fun _ => .enterState "transcribe" "confirm" asksAgain)
      (e.running (asking serial (turns + us.length))) := by
  induction us generalizing e turns with
  | nil => exact hat.converses_nil
  | cons u rest ih =>
      obtain ⟨hu, hrest⟩ := List.forall_mem_cons.1 hus
      rw [List.length_cons] at hle ⊢
      have hone := hat.converses_hesitation (by omega) hu
      have hmore := ih (hat.running (b := asking serial (turns + 1)) rfl rfl)
        hrest (by omega)
      rw [show turns + (rest.length + 1) = turns + 1 + rest.length by omega]
      exact hone.cons hmore

/-- At `confirmState`, the engine goes on as `Asks` says. -/
theorem At.asks (he : e.Equipped) : e.Asks turns where
  givesUp hthree u hstays := by
    subst hthree
    have hreplies := follow_replies_leaving
      (hat.remembering (asking serial 3).context.countTurn)
      (t := confirmState.maxTurnsTarget)
      (by rw [confirmState_maxTurnsTarget]; rfl)
      (by rw [confirmState_maxTurnsTarget])
    rw [Template.render_plain (by decide +kernel)] at hreplies
    refine ⟨_, he.reset, converses_of_replies ?_⟩
    have hcap : confirmState.turnCap = some 3 := rfl
    rw [hat.plan_redirected (Utterance.not_closes hstays) hcap
      (Int.le_refl 3)]
    exact hreplies.after _
  denied hturns u hstays hno := by
    have hreplies := follow_replies_leaving
      (hat.remembering (asking serial turns).context.countTurn)
      (t := {
        kind := .exit, message := "Cancelled. No transcription started." })
      rfl rfl
    rw [Template.render_plain (by decide +kernel)] at hreplies
    refine ⟨_, he.reset, converses_of_replies ?_⟩
    rw [hat.plan_asking hturns hstays (hno.symm ▸ confirmState_deny)]
    exact hreplies
  confirmed hturns u hstays hyes := by
    have hstated : transcribe.states.get? "recording" = some recordingState :=
      rfl
    have hreplies := follow_replies_entering
      (hat.remembering (asking serial turns).context.countTurn)
      (t := { kind := .goto, state := some "recording" })
      ⟨rfl, rfl⟩ hstated
    have hline : ∀ ctx, Template.render recordingState.onEnter ctx
        = recordingState.onEnter := Template.render_plain (by decide +kernel)
    rw [Option.getD_none, hline] at hreplies
    -- the recording is another state, so its turns are counted from zero
    have hrecording : (e.running (recording serial (turns + 1))).At transcribe
        "recording" recordingState (recording serial (turns + 1)) :=
      ⟨rfl, rfl, rfl, hat.registered, hstated⟩
    refine ⟨_, converses_of_replies ?_,
      (he.running _).takes_speech hrecording⟩
    rw [hat.plan_asking hturns hstays (hyes.symm ▸ confirmState_confirm)]
    exact hreplies

end Question

/-- A `Packaged` engine transcribes, after it has asked. -/
theorem Packaged.transcribes (he : e.Packaged) : e.Transcribes := by
  intro start us hstart hus hle
  obtain ⟨e₁, he₁, hat, hbegins⟩ := he.converses_starting
    (d := transcribe) (by simp [Builtins.all]) (s := confirmState) rfl hstart
  rw [Template.render_plain (by decide +kernel)] at hbegins
  have hasked : e₁.At transcribe "confirm" confirmState
      (asking e.activations 0) := hat
  have hagain := hasked.converses_hesitating us hus (by omega)
  rw [Nat.zero_add] at hagain
  have hthere : (e₁.running (asking e.activations us.length)).At transcribe
      "confirm" confirmState (asking e.activations us.length) :=
    hasked.running rfl rfl
  exact ⟨_, hbegins.cons hagain, hthere.asks (he₁.running _)⟩

/-- On an engine that is `Packaged`, both workflows do what is advertised:
`TakesNotes` and `Transcribes`. -/
theorem packaged_as_advertised {e : Engine Hook} (he : e.Packaged) :
    e.TakesNotes ∧ e.Transcribes :=
  ⟨he.takesNotes, he.transcribes⟩

/-- A new engine with the packaged definitions registered. -/
def stocked : Engine Hook where
  registry := ({} : Registry).registerAll Builtins.all
  handlers := .ofList (Handler.builtins.map fun entry =>
    (entry.1, .plain entry.2))

/-- On `stocked`, with a listener that raises each time, two notes are taken
and shown, one of which looks like a placeholder and one of which is empty; and
after three hesitations a yes comes too late. -/
theorem packaged_as_advertised_stocked :
    let clerk : Listener := { reactions := [.fail "no"], limit := 2 }
    let desk : Stage := {
      engine := stocked
      emitter := ({} : Emitter).subscribe .exitWorkflow "clerk"
      listeners := .ofList [("clerk", clerk)]
      disk := { find := fun _ => .ok .device } }
    (∃ t, runAll [.handle "" "take_notes",
          .handle "\x7b\x7bbuffer\x7d\x7d" "deny", .handle "" "transcribe",
          .handle "I am DONE with notes." ""] desk
        = ([.enterState "notes" "collecting" "Go ahead, one note at a time.",
            .inputCaptured "notes" "collecting",
            .inputCaptured "notes" "collecting",
            .exitWorkflow "notes"
              "Saved 2 notes:\n- \x7b\x7bbuffer\x7d\x7d\n- "
              { buffer := "- \x7b\x7bbuffer\x7d\x7d\n- "
                turnCount := 2, stateTurnCount := 2 }].map
          fun action => .ok (.outcome (.done action) none), t))
      ∧ ∃ e', stocked.Converses
          [⟨"", "transcribe"⟩, ⟨"a", ""⟩, ⟨"b", "*"⟩, ⟨"c", "take_notes"⟩]
          (.enterState "transcribe" "confirm"
              "Do you want to transcribe audio?"
            :: List.replicate 3
              (.enterState "transcribe" "confirm" asksAgain)) e'
        ∧ e'.Concludes ⟨"yes", "confirm"⟩ "transcribe"
          "Sorry, I couldn't understand. Cancelling transcription."
          { turnCount := 4, stateTurnCount := 4 } := by
  intro clerk desk
  have hstocked : stocked.Packaged := by
    refine ⟨⟨?_, ?_⟩, rfl⟩
    · exact List.forall_mem_cons.2 ⟨rfl, List.forall_mem_cons.2 ⟨rfl, nofun⟩⟩
    · exact List.forall_mem_cons.2 ⟨rfl, List.forall_mem_cons.2 ⟨rfl, nofun⟩⟩
  obtain ⟨hnotes, htranscribes⟩ := packaged_as_advertised hstocked
  constructor
  · obtain ⟨e₁, hbegins, htakes⟩ := hnotes ⟨"", "take_notes"⟩ rfl
    obtain ⟨e₂, htaken, hends⟩ := htakes
      [⟨"\x7b\x7bbuffer\x7d\x7d", "deny"⟩, ⟨"", "transcribe"⟩]
      (by decide +kernel)
    obtain ⟨e₃, -, hended⟩ := hends ⟨"I am DONE with notes.", ""⟩
      (by decide +kernel)
    have hpassive : ∀ l ∈ desk.listeners.values, l.isPassive = true := by
      decide +kernel
    obtain ⟨t, hrun, -⟩ := (hbegins.cons (htaken.trans hended)) desk
      ⟨nofun, hpassive, ⟨rfl, nofun⟩⟩ rfl
    exact ⟨t, hrun⟩
  · have hhesitates : ∀ u ∈ ([⟨"a", ""⟩, ⟨"b", "*"⟩, ⟨"c", "take_notes"⟩] :
        List Utterance), u.Hesitates := by
      simp only [List.forall_mem_cons]
      exact ⟨⟨by decide +kernel, by decide, by decide⟩,
        ⟨by decide +kernel, by decide, by decide⟩,
        ⟨by decide +kernel, by decide, by decide⟩, nofun⟩
    obtain ⟨e', hasked, hasks⟩ := htranscribes ⟨"", "transcribe"⟩ _ rfl
      hhesitates (Nat.le_refl 3)
    exact ⟨e', hasked, hasks.givesUp rfl ⟨"yes", "confirm"⟩
      (by decide +kernel)⟩

end Engine
end Colloquy
