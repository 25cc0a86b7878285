/-
What the classifier is spared. A session gives a text to the engine without
having it classified if the engine takes every input as content. The
session of reference here has every text classified, and the engine does
the same for it (`runAll_classifying`): where every input is content, no
intent leads anywhere else. What is reported of a text differs: its intent,
its score, and that it was not classified.

The two sessions go on abreast under a regime that keeps every name of a
handler, so that stages which are alike have the same engine. Listeners run
no operations in it and handlers keep to their contexts, so the classifier
is called for the texts of the session and for no others
(`Stage.Spares`).
-/
import Colloquy.Proofs.Script.Hearing
import Colloquy.Proofs.Script.Lockstep

namespace Colloquy

namespace Script

-- ========================================================== what is said

/-- The reply of a turn without its intent, its score, and whether it was
classified. -/
def Reply.unsaid : Reply → Reply
  | .turn t stray _ =>
    .turn { t with intent := "", score := .zero false, bypassed := false }
      stray []
  | reply => reply

/-- The event with its reply `unsaid`. -/
def Event.unsaid : Event → Event
  | .nested result => .nested (result.map Reply.unsaid)
  | event => event

/-- Replies that are `Alike` with every name kept are equal `unsaid`. -/
theorem Reply.Alike.unsaid_eq {r r' : Reply}
    (h : r.Alike (fun _ => true) r') : r.unsaid = r'.unsaid := by
  cases h with
  | same => rfl
  | @turn t t' stray calls calls' text outcome bypassed =>
      obtain ⟨text₁, intent, score, bypassed₁, outcome₁⟩ := t
      obtain ⟨text₂, intent', score', bypassed₂, outcome₂⟩ := t'
      dsimp only at text outcome
      subst text outcome
      rfl
  | record h =>
      rw [Definition.pruned_all, Definition.pruned_all] at h
      rw [h]

theorem Outcomes.unsaid_eq {r r' : Except Fault Reply}
    (h : Outcomes (Reply.Alike fun _ => true) r r') :
    r.map Reply.unsaid = r'.map Reply.unsaid := by
  cases h with
  | ok h => exact congrArg Except.ok h.unsaid_eq
  | error fault => rfl

theorem Event.Alike.unsaid_eq {e e' : Event}
    (h : e.Alike (fun _ => true) e') : e.unsaid = e'.unsaid := by
  cases h with
  | same => rfl
  | nested h => exact congrArg Event.nested h.unsaid_eq

-- ============================================== the session of reference

/-- The session of reference: a text that is not blank is classified and
handled, also where the engine is capturing. -/
def classifying (inner : Operation → Run Reply) (text : String) :
    Run Reply := do
  modify fun s => { s with calls := [] }
  if (Text.trim text).isEmpty then return .nothing
  else takeClassified inner (Text.trim text)

/-- The same as `perform`, with `classifying` in place of `process`. -/
def performClassifying (inner : Operation → Run Reply) :
    Operation → Run Reply
  | .process text => classifying inner text
  | operation => perform inner operation

/-- The same as `run`, with `performClassifying` in place of `perform`. -/
def runClassifying : Operation → Run Reply :=
  journalled (performClassifying run)

/-- The same as `runAll`, with `runClassifying` in place of `run`. -/
def runAllClassifying :
    List Operation → Stage → List (Except Fault Reply) × Stage :=
  runAllBy runClassifying

section Reference

variable {c : Regime} {s s' : Stage}

/-- The two sessions, `process` and `classifying`, are `Abreast`. -/
theorem classifying_abreast {inner inner' : Operation → Run Reply}
    (hinner : ∀ op s s', c.fair op → s.Alike c s' →
      Abreast c (Reply.Alike c.keep) (inner op) (inner' op) s s')
    (text : String) (h : s.Alike c s') :
    Abreast c (Reply.Alike c.keep) (process inner text)
      (classifying inner' text) s s' := by
  rw [process_eq]
  refine Abreast.bind_eq (.modify ⟨h.outline, h.events, h.keeps, h.reacts,
    h.operates⟩) fun _ t t' ht => .get_left ?_
  unfold Session.route
  by_cases hblank : (Text.trim text).isEmpty = true
  · rw [if_pos hblank]
    simp only [if_pos hblank]
    exact .pure (.same _) ht
  rw [if_neg hblank]
  simp only [if_neg hblank]
  by_cases hcapture : t.engine.isCapturing = true
  · rw [if_pos hcapture]
    have htake := takeContent_takeSaid_abreast hinner (Text.trim text)
      (t'.classifier.classify (Text.trim text)) hcapture
      (ht.asked_right (Text.trim text))
    exact ⟨htake.outcome, htake.stage⟩
  · rw [if_neg hcapture]
    exact takeClassified_abreast hinner _ ht

theorem runClassifying_abreast {op : Operation}
    (hop : op.Suits c.keep c.fair) (h : s.Alike c s') :
    Abreast c (Reply.Alike c.keep) (run op) (runClassifying op) s s' := by
  have hinner : ∀ op s s', c.fair op → s.Alike c s' →
      Abreast c (Reply.Alike c.keep) (run op) (run op) s s' :=
    fun op s s' hop h => run_abreast (c.suits op hop) h
  have hperform : ∀ t t', t.Alike c t' →
      Abreast c (Reply.Alike c.keep) (perform run op)
        (performClassifying run op) t t' := by
    intro t t' ht
    cases op with
    | process text => exact classifying_abreast hinner text ht
    | _ => exact perform_abreast hinner hop ht
  have hjournalled := journalled_abreast op hperform h
  constructor
  · rw [run_eq]
    exact hjournalled.outcome
  · rw [run_eq]
    exact hjournalled.stage

end Reference

-- ====================================================== the texts in calls

section Calls

variable (inner : Operation → Run Reply) {s : Stage}
  (hkeeps : s.KeepsToContexts) (hpassive : s.Passive)
include hkeeps hpassive

/-- An operation that `isDirect` has no text classified: a subscription aside,
it settles backstage, and then listeners hear of it. -/
theorem perform_direct_calls {op : Operation} (hop : op.isDirect = true)
    (hsub : op.isSubscription = false) :
    (perform inner op s).2.calls = s.calls := by
  have hframe := (settle_backstage hop hsub).frame s
  have hquiet : (settle op s).2.Passive := by
    unfold Stage.Passive
    rw [show (settle op s).2.listeners = s.listeners from
      congrArg Audience.listeners hframe]
    exact hpassive
  have htells : ∀ news, ∃ t, tell inner news (settle op s).2 = (.ok (), t)
      ∧ Heard (settle op s).2 t (news.flatMap (settle op s).2.hearings) :=
    fun news => tell_heard inner news hquiet
  obtain ⟨-, htell⟩ := perform_settles inner hop hkeeps fun news => by
    obtain ⟨t, ht, -⟩ := htells news
    rw [ht]
  obtain ⟨t, ht, hheard⟩ := htells (newsOf op s)
  have hstage : (perform inner op s).2 = t :=
    congrArg Prod.snd (htell.symm.trans ht)
  rw [hstage, hheard.calls]
  exact congrArg Audience.calls hframe

/-- No operation but `process` has a text classified. -/
theorem perform_calls {op : Operation}
    (hop : ∀ p ∈ op.brings, p.keepsToContext = true)
    (hprocess : ∀ text, op ≠ .process text) :
    (perform inner op s).2.calls = s.calls := by
  cases hsub : op.isSubscription with
  | true =>
      obtain ⟨m, hm⟩ := perform_subscription inner op hsub s
      rw [hm]
  | false =>
      cases hown : op.isOwn with
      | true =>
          refine perform_direct_calls inner hkeeps hpassive ?_ hsub
          rw [Operation.isDirect, hown, Bool.true_and]
          exact List.all_eq_true.2 hop
      | false =>
          cases op with
          | process text => exact absurd rfl (hprocess text)
          | emit action =>
              obtain ⟨t, ht, hheard⟩ :=
                dispatch_heard inner (action, none) hpassive
              have hstage := congrArg Prod.snd
                (bind_of_ok (k := fun _ => pure Reply.nothing) ht)
              exact (congrArg Stage.calls hstage).trans hheard.calls
          | ask query =>
              show ((liftExcept (answer s query) : Run Reply) s).2.calls
                = s.calls
              cases answer s query <;> rfl
          | _ => cases hown

/-- In `handle`, no text is classified. -/
theorem handle_calls (text intent : String) :
    (handle inner text intent s).2.calls = s.calls := by
  have hperform := @perform_direct_calls inner s hkeeps hpassive
    (.handle text intent) rfl rfl
  have hsame : (perform inner (.handle text intent) s).2
      = (handle inner text intent s).2 :=
    bind_stage (fun _ _ => rfl) s
  rw [← hsame]
  exact hperform

theorem takeContent_calls (text : String) :
    (takeContent inner text s).2.calls = s.calls := by
  have hsame : (takeContent inner text s).2
      = (handle inner text Session.unknownIntent s).2 :=
    bind_stage (fun _ _ => rfl) s
  rw [hsame]
  exact handle_calls inner hkeeps hpassive text _

theorem takeSaid_calls (text : String) (said : Classification) :
    (takeSaid inner text said s).2.calls = s.calls := by
  have hhandle := handle_calls inner hkeeps hpassive text said.intent
  unfold takeSaid
  rw [bind_apply]
  rcases hrun : handle inner text said.intent s with
    ⟨fault | ⟨outcome, stray⟩, t⟩
  · rw [hrun] at hhandle
    exact hhandle
  · rw [hrun] at hhandle
    exact hhandle

/-- The calls of `process`: one with the text trimmed, if that is not empty and
the engine is not capturing, and otherwise none. -/
theorem process_calls (text : String) :
    (process inner text s).2.calls
      = if (Text.trim text).isEmpty || s.engine.isCapturing then []
        else [Text.trim text] := by
  rcases process_cases inner text s
    with ⟨hblank, hprocess⟩ | ⟨hblank, hcapture, hprocess⟩
      | ⟨hblank, hcapture, hprocess⟩
  · rw [hprocess, hblank]
    rfl
  · rw [hprocess, hblank, hcapture]
    exact takeContent_calls inner (s := s.cleared) hkeeps hpassive _
  · rw [hprocess, hblank, hcapture]
    have htake := takeSaid_calls inner (s := s.cleared.asked (Text.trim text))
      hkeeps hpassive (Text.trim text) (s.classifier.classify (Text.trim text))
    exact htake

end Calls

-- ============================================================== seclusion

/-- A program `keepsToContext` just if it `runs` no operation. -/
theorem Program.keepsToContext_iff {p : Program} :
    p.keepsToContext = true ↔ ∀ op ∈ p.runs, False := by
  unfold keepsToContext runs
  rw [List.all_eq_true]
  constructor
  · intro h op hop
    obtain ⟨instruction, hmem, hoperates⟩ := List.mem_filterMap.1 hop
    have htouch := h instruction hmem
    cases instruction with
    | touch change => cases hoperates
    | operate operation => cases htouch
  · intro h instruction hmem
    cases instruction with
    | touch change => rfl
    | operate operation =>
        exact (h operation (List.mem_filterMap.2 ⟨_, hmem, rfl⟩)).elim

/-- Listeners are `Passive` just if they react with no operation. -/
theorem Stage.passive_iff {s : Stage} :
    s.Passive ↔ s.Reacts fun _ => False := by
  have hlistener : ∀ l : Listener, l.isPassive = true
      ↔ ∀ r ∈ l.reactions, ∀ op ∈ r.runs, False := by
    intro l
    unfold Listener.isPassive
    rw [List.all_eq_true]
    refine forall_congr' fun r => imp_congr_right fun _ => ?_
    cases r with
    | fail message => exact ⟨fun _ => nofun, fun _ => rfl⟩
    | operate operation =>
        exact ⟨nofun, fun h => (h operation (List.mem_singleton.2 rfl)).elim⟩
    | insist operation wording =>
        exact ⟨nofun, fun h => (h operation (List.mem_singleton.2 rfl)).elim⟩
  unfold Stage.Passive Stage.Reacts
  simp only [hlistener]

/-- The regime that keeps every name, and under which nothing runs within an
operation. -/
def secluded : Regime where
  keep _ := true
  fair _ := False
  suits _ h := h.elim

theorem Operation.suits_secluded {op : Operation}
    (h : ∀ p ∈ op.brings, p.keepsToContext = true) :
    op.Suits secluded.keep secluded.fair := by
  cases op with
  | registerHandler name program =>
      exact ⟨rfl, Program.keepsToContext_iff.1
        (h program (List.mem_singleton.2 rfl))⟩
  | _ => trivial

/-- Under `secluded`, stages that are `Alike` are equal `alone`. -/
theorem Stage.Alike.alone_eq {s s' : Stage} (h : s.Alike secluded s') :
    s.alone = s'.alone := by
  have houtline : ∀ s : Stage, s.alone
      = { s.outline secluded.keep with
          engine := s.engine
          handle := s.handle
          emitter := {}
          listeners := .empty } := fun _ => rfl
  have hhandle : ∀ x : Handle, x.pruned secluded.keep = x := by
    intro x
    cases x with
    | apart r => exact congrArg Handle.apart r.pruned_all
    | _ => rfl
  have hengine := h.engine
  rw [show secluded.keep = fun _ => true from rfl, Engine.pruned_all,
    Engine.pruned_all] at hengine
  have hhandles := h.handle
  rw [hhandle, hhandle] at hhandles
  rw [houtline, houtline s', h.outline, hengine, hhandles]

-- ============================================================== the session

/-- How a session calls its classifier: once for a text that is not blank,
while the engine is not capturing, with the text trimmed; for no other text,
and in no other operation. Texts that are equal trimmed are taken alike. -/
structure Stage.AsksOnce (s : Stage) : Prop where
  asked : ∀ text, (run (.process text) s).2.calls
    = if (Text.trim text).isEmpty || s.engine.isCapturing then []
      else [Text.trim text]
  silent : ∀ op : Operation, (∀ p ∈ op.brings, p.keepsToContext = true) →
    (∀ text, op ≠ .process text) → (run op s).2.calls = s.calls
  trimmed : ∀ text text', Text.trim text = Text.trim text' →
    (run (.process text) s).1 = (run (.process text') s).1
      ∧ { (run (.process text) s).2 with journal := [] }
        = { (run (.process text') s).2 with journal := [] }

/-- The stage with an empty journal. -/
def Stage.afresh (s : Stage) : Stage := { s with journal := [] }

/-- The result of `run` is that of `perform`. -/
theorem run_result (op : Operation) (s : Stage) :
    (run op s).1 = (perform run op s.afresh).1 := by
  have hjournalled : ∀ m : Operation → Run Reply,
      (journalled m op s).1 = (m op s.afresh).1 := fun _ => rfl
  rw [run_eq, hjournalled]

/-- But for the journal, `run` leaves what `perform` leaves. -/
theorem run_afresh (op : Operation) (s : Stage) :
    (run op s).2.afresh = (perform run op s.afresh).2.afresh := by
  have hjournalled : ∀ m : Operation → Run Reply,
      (journalled m op s).2.afresh = (m op s.afresh).2.afresh := fun _ => rfl
  rw [run_eq, hjournalled]

/-- Any `part` of the stage that the journal is not in is left by `run` as by
`perform`. -/
theorem run_part {γ : Type} (part : Stage → γ)
    (hpart : ∀ s, part s.afresh = part s) (op : Operation) (s : Stage) :
    part (run op s).2 = part (perform run op s.afresh).2 := by
  rw [← hpart, run_afresh, hpart]

/-- What `process` does depends on the trimmed text only. -/
theorem process_trimmed {inner : Operation → Run Reply} {text text' : String}
    (h : Text.trim text = Text.trim text') :
    process inner text = process inner text' := by
  have hroute : ∀ e : Engine Hook,
      Session.route e text = Session.route e text' := by
    intro e
    unfold Session.route
    rw [h]
  rw [process_eq, process_eq]
  simp only [hroute]

theorem Stage.asksOnce {s : Stage} (hkeeps : s.KeepsToContexts)
    (hpassive : s.Passive) : s.AsksOnce := by
  have hkeeps' : s.afresh.KeepsToContexts := hkeeps
  have hpassive' : s.afresh.Passive := hpassive
  have hperform : ∀ text, perform run (.process text) = process run text :=
    fun _ => rfl
  refine ⟨fun text => ?_, fun op hop hprocess => ?_, fun text text' h => ?_⟩
  · have hcalls := process_calls run hkeeps' hpassive' text
    rw [run_part Stage.calls fun _ => rfl, hperform, hcalls]
    rfl
  · have hcalls := perform_calls run hkeeps' hpassive' hop hprocess
    rw [run_part Stage.calls fun _ => rfl, hcalls]
    rfl
  · have hsame : perform run (.process text) s.afresh
        = perform run (.process text') s.afresh := by
      rw [hperform, hperform, process_trimmed h]
    refine ⟨by rw [run_result, run_result, hsame], ?_⟩
    show (run (.process text) s).2.afresh = (run (.process text') s).2.afresh
    rw [run_afresh, run_afresh, hsame]

/-- A classifier that is bypassed is not missed. With handlers that keep to
their contexts and listeners that run no operations, a session comes to the
same as the one of reference, which has every text classified: the same
replies, up to what is said of a text, the same engine with everything that
is remembered, and the same for listeners to hear. Its classifier is called
once for every text that needs it, and never otherwise. -/
theorem runAll_classifying (ops : List Operation) (s : Stage)
    (hops : ∀ op ∈ ops, ∀ p ∈ op.brings, p.keepsToContext = true)
    (hkeeps : s.KeepsToContexts) (hpassive : s.Passive) :
    (runAll ops s).1.map (·.map Reply.unsaid)
        = (runAllClassifying ops s).1.map (·.map Reply.unsaid)
      ∧ (runAll ops s).2.alone = (runAllClassifying ops s).2.alone
      ∧ (runAll ops s).2.events.map Event.unsaid
        = (runAllClassifying ops s).2.events.map Event.unsaid
      ∧ (runAll ops s).2.AsksOnce := by
  have hs : s.Alike secluded s := by
    refine .refl (fun _ _ => rfl) (Stage.passive_iff.1 hpassive) ?_
    exact fun p hp => Program.keepsToContext_iff.1 (hkeeps p hp)
  obtain ⟨hresults, hstage⟩ := runAllBy_abreast ops (fun op hop _ _ h =>
    runClassifying_abreast (Operation.suits_secluded (hops op hop)) h) hs
  refine ⟨?_, hstage.alone_eq, ?_, Stage.asksOnce ?_ ?_⟩
  · rw [← List.forall₂_eq_eq_eq, List.forall₂_map_left_iff,
      List.forall₂_map_right_iff]
    exact hresults.imp fun _ _ h => h.unsaid_eq
  · rw [← List.forall₂_eq_eq_eq, List.forall₂_map_left_iff,
      List.forall₂_map_right_iff]
    exact hstage.events.imp fun _ _ h => h.unsaid_eq
  · exact fun p hp => Program.keepsToContext_iff.2 (hstage.operates p hp)
  · exact Stage.passive_iff.2 hstage.reacts

/-- A stage with the packaged workflow for dictation (`Builtins.transcribe`),
and a classifier that knows three texts. -/
def dictation : Stage where
  engine := {
    registry := ({} : Registry).register Builtins.transcribe
    handlers := .ofList [("accumulate", .plain Handler.accumulate)] }
  classifier := .ofList [("begin", { intent := "transcribe" }),
    ("yes", { intent := "confirm" }), ("words", { intent := "deny" })]
  disk := { find := fun _ => .ok .device }

/-- On `dictation` the third text is captured whatever its intent: the session
does not ask, and the session of reference is told an intent that leads
nowhere. -/
theorem runAll_classifying_dictation :
    let ops : List Operation :=
      [.process "begin", .process " yes ", .process "words"]
    (runAll ops dictation).2.engine.context.buffer = "words"
      ∧ (runAll ops dictation).2.calls = []
      ∧ (runAllClassifying ops dictation).2.calls = ["words"]
      ∧ (runAll ops dictation).1.map (·.map Reply.unsaid)
        = (runAllClassifying ops dictation).1.map (·.map Reply.unsaid)
      ∧ (runAll ops dictation).2.alone
        = (runAllClassifying ops dictation).2.alone
      ∧ (runAll ops dictation).2.events.map Event.unsaid
        = (runAllClassifying ops dictation).2.events.map Event.unsaid
      ∧ (runAll ops dictation).2.AsksOnce := by
  intro ops
  have hops : ∀ op ∈ ops, op.brings = [] := by decide +kernel
  refine ⟨by decide +kernel, by decide +kernel, by decide +kernel, ?_⟩
  exact runAll_classifying ops dictation
    (fun op hop p hp => by rw [hops op hop] at hp; cases hp) nofun nofun

end Script
end Colloquy
