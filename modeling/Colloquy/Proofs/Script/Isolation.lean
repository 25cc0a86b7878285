/-
A running workflow and the registrations of others. Inputs, announcements
and questions come to an engine that is running a workflow, and between them
definitions with other ids are registered, alone or in batches, some of
which may fail. Leave the registrations out, and up to the end of the
workflow all comes to the same: the same results, the same actions for
listeners to hear, and at every moment the same running workflow, which
remembers and captures the same (`runAll_isolated`).

# Two runs

While a workflow is running, a registry may be put in the place of another
one that has the same under its id: what comes of a call stays the same and
lies over the new registry instead (`settle_upon`). The stages of the two runs
are always such a pair, up to what was noted down (`Stage.Beside`).

Questions about what else is registered are asked of the registry, not of
the engine's workflow. Their answers are the only results that may differ
(`shouldTrigger_not_isolated`).
-/
import Colloquy.Proofs.Engine.Upon
import Colloquy.Proofs.Script.Hearing
import Colloquy.Proofs.Script.Registering

namespace Colloquy

namespace Script

variable {α β : Type} {r : Registry}

-- ================================================================= stages

/-- The stage with its engine over the registry `r`. -/
def Stage.upon (s : Stage) (r : Registry) : Stage :=
  { s with engine := s.engine.upon r }

/-- From `s.upon r`, the run `m'` comes to what `m` comes to from `s`, and
leaves the same stage `upon r`. -/
def Commutes (r : Registry) (m m' : Run α) : Prop :=
  ∀ s, m' (s.upon r) = ((m s).1, (m s).2.upon r)

theorem Commutes.bind {m m' : Run α} {k k' : α → Run β}
    (hm : Commutes r m m') (hk : ∀ a, Commutes r (k a) (k' a)) :
    Commutes r (m >>= k) (m' >>= k') := by
  intro s
  rw [bind_apply, bind_apply, hm s]
  rcases m s with ⟨fault | a, t⟩
  · rfl
  · exact hk a t

theorem Commutes.get {k k' : Stage → Run α}
    (hk : ∀ s, Commutes r (k s) (k' (s.upon r))) :
    Commutes r (get >>= k) (get >>= k') := fun s => hk s s

theorem demand_commutes (template : Option String) :
    Commutes r (demand template) (demand template) := by
  refine .get fun s => ?_
  rw [show (s.upon r).stray? = s.stray? from rfl,
    show (s.upon r).engine.context = s.engine.context from rfl]
  cases s.stray? with
  | none => exact fun _ => rfl
  | some stray =>
      cases template with
      | none => exact fun _ => rfl
      | some template =>
          dsimp only
          cases obstacle? stray s.engine.context template with
          | none => exact fun _ => rfl
          | some obstacle => exact fun _ => rfl

theorem edit_commutes (serial : Nat) (change : Draft → Except Fault Draft) :
    Commutes r (edit serial change) (edit serial change) := by
  refine .get fun s => ?_
  rw [show (s.upon r).draft serial = s.draft serial from rfl]
  cases change (s.draft serial) with
  | error fault => exact fun _ => rfl
  | ok d => exact fun _ => rfl

/-- That runs are such as `Commutes` says is a `Law`. -/
theorem commutes_law : Law (Commutes r) where
  nothing := fun _ => rfl
  andThen := fun hm hk => .bind hm fun _ => hk
  look := fun _ hsees hk => .get fun s => hsees s (s.upon r) rfl ▸ hk s

theorem touch_commutes (text : String) (a : Activation) (hook : Hook) :
    Commutes r (touch text a hook) (touch text a hook) :=
  commutes_law.touch edit_commutes text a hook

/-- Carrying out a plan commutes with `upon`. -/
theorem carryOut_commutes (p : Engine.Plan Hook) :
    Commutes r (carryOut p) (carryOut (p.upon r)) := by
  have hremember : Commutes r (rememberEnding p.course)
      (rememberEnding p.course) := by
    cases p.course with
    | _ => exact fun _ => rfl
  let bare : Engine.Plan Hook := { p with entries := [] }
  obtain ⟨hengine, hentries, hstep⟩ := bare.upon_carryOut r
  refine .bind (fun _ => rfl) fun _ => .bind (fun _ => rfl) fun _ => ?_
  refine .bind (demand_commutes p.course.template?) fun _ => ?_
  refine .bind hremember fun stray => ?_
  show Commutes r _ (setEngine (bare.upon r).carryOut.engine >>= fun _ =>
    note (bare.upon r).carryOut.entries >>= fun _ =>
      pure ((bare.upon r).carryOut.step, stray))
  rw [hengine, hentries, hstep]
  exact fun _ => rfl

-- ============================================================= operations

/-- Whether the operation asks the registry about definitions other than the
one under `w`. -/
def Operation.asksAbroad (w : String) : Operation → Bool
  | .ask (.shouldTrigger _) | .ask (.findByTrigger _) | .ask (.registry _) =>
    true
  | .ask (.record id) | .ask (.problems id) => id ≠ w
  | _ => false

/-- Whether the operation is an input, an announcement or a question to the
engine. -/
def Operation.isCall : Operation → Bool
  | .handle .. | .announce _ => true
  | .ask query => (Operation.ask query).isOwn
  | _ => false

theorem Operation.isDirect_of_isCall {op : Operation}
    (h : op.isCall = true) : op.isDirect = true := by
  cases op with
  | handle text intent => rfl
  | announce message => rfl
  | ask query => exact Bool.and_eq_true_iff.2 ⟨h, rfl⟩
  | _ => cases h

theorem Operation.not_isSubscription_of_isCall {op : Operation}
    (h : op.isCall = true) : op.isSubscription = false := by
  cases op with
  | subscribe event listener => cases h
  | unsubscribe event listener => cases h
  | _ => rfl

/-- If the plan of an input commutes with `upon`, so does `settle`. -/
theorem settle_handle_of_plan {s : Stage} {text intent : String}
    (hplan : (s.engine.upon r).plan text intent
      = (s.engine.plan text intent).upon r) :
    settle (.handle text intent) (s.upon r)
      = ((settle (.handle text intent) s).1,
        (settle (.handle text intent) s).2.upon r) := by
  simp only [settle]
  rw [get_bind_apply, get_bind_apply]
  rw [show (s.upon r).engine = s.engine.upon r from rfl, hplan]
  refine Commutes.bind (carryOut_commutes _) (fun result => ?_) s
  obtain ⟨step, stray⟩ := result
  cases step with
  | settled outcome => exact fun _ => rfl
  | failed fault => exact fun _ => rfl
  | capture hook b state =>
      refine .bind (touch_commutes text b hook) fun _ => .get fun t => ?_
      rw [show (t.upon r).engine.captured state
        = t.engine.captured state from rfl]
      cases t.engine.captured state with
      | error fault => exact fun _ => rfl
      | ok action => exact fun _ => rfl

/-- For an announcement, `settle` commutes with `upon`. -/
theorem settle_announce_upon (message : String) (s : Stage) :
    settle (.announce message) (s.upon r)
      = ((settle (.announce message) s).1,
        (settle (.announce message) s).2.upon r) := by
  refine Commutes.bind (demand_commutes (some message)) (fun _ => ?_) s
  exact .get fun t => fun _ => rfl

/-- For a question, `settle` gives its answer and changes nothing. -/
theorem settle_ask (query : Query) (s : Stage) :
    settle (.ask query) s = ((answer s query).map (·, []), s) := by
  have hanswer : ∀ result : Except Fault Reply,
      ((liftExcept result >>= fun reply => pure (reply, []) :
        Run (Reply × List News)) s) = (result.map (·, []), s) := by
    intro result
    cases result <;> rfl
  exact hanswer (answer s query)

section Upon

variable {s : Stage} {a : Activation} (hactive : s.engine.active = some a)
  (hr : r.get? a.workflow = s.engine.registry.get? a.workflow)
include hactive hr

/-- While a workflow is running, `settle` for an input commutes with `upon` for
a registry that has the same definition of it. -/
theorem settle_handle_upon (text intent : String) :
    settle (.handle text intent) (s.upon r)
      = ((settle (.handle text intent) s).1,
        (settle (.handle text intent) s).2.upon r) :=
  settle_handle_of_plan (Engine.plan_upon hactive hr text intent)

omit hactive in
/-- A question that does not ask abroad has the same answer `upon` such a
registry. -/
theorem answer_upon {query : Query}
    (h : (Operation.ask query).asksAbroad a.workflow = false) :
    answer (s.upon r) query = answer s query := by
  have hget : ∀ id, id = a.workflow →
      (s.upon r).engine.registry.get? id = s.engine.registry.get? id := by
    rintro id rfl
    exact hr
  cases query with
  | shouldTrigger intent => cases h
  | findByTrigger intent => cases h
  | registry ids => cases h
  | record id =>
      have hid : id = a.workflow := by simpa [Operation.asksAbroad] using h
      exact congrArg (fun found => Except.ok
        (Reply.record (Option.map Record.write found))) (hget id hid)
  | problems id =>
      have hid : id = a.workflow := by simpa [Operation.asksAbroad] using h
      show answer (s.upon r) (.problems id) = answer s (.problems id)
      simp only [answer, hget id hid]
  | handlers names => rfl
  | subscribers event => rfl

/-- For every call, `settle` leaves the same stage `upon` such a registry, with
the same news, and comes to the same unless it `asksAbroad`. -/
theorem settle_upon {op : Operation} (hop : op.isCall = true) :
    (settle op (s.upon r)).2 = (settle op s).2.upon r
      ∧ newsOf op (s.upon r) = newsOf op s
      ∧ (op.asksAbroad a.workflow = false →
        (settle op (s.upon r)).1 = (settle op s).1) := by
  cases op with
  | handle text intent =>
      have hupon := settle_handle_upon hactive hr text intent
      have hfirst := congrArg Prod.fst hupon
      exact ⟨congrArg Prod.snd hupon, congrArg newsIn hfirst, fun _ => hfirst⟩
  | announce message =>
      have hupon := settle_announce_upon (r := r) message s
      have hfirst := congrArg Prod.fst hupon
      exact ⟨congrArg Prod.snd hupon, congrArg newsIn hfirst, fun _ => hfirst⟩
  | ask query =>
      rw [newsOf_quiet rfl, newsOf_quiet rfl, settle_ask, settle_ask]
      refine ⟨rfl, rfl, fun habroad => ?_⟩
      rw [answer_upon hr habroad]
  | _ => cases hop

end Upon

/-- A call leaves the registry as it is. -/
theorem settle_registry {op : Operation} (hop : op.isCall = true) {s : Stage}
    {a : Activation} (hactive : s.engine.active = some a) :
    (settle op s).2.engine.registry = s.engine.registry := by
  obtain ⟨hupon, -⟩ :=
    settle_upon (r := s.engine.registry) hactive rfl hop
  have hsame := congrArg (fun t : Stage => t.engine.registry) hupon
  exact hsame

/-- After a call the workflow that was running is still running, or the engine
is idle. -/
theorem settle_call_running {op : Operation} (hop : op.isCall = true)
    {s : Stage} {a : Activation} (hactive : s.engine.active = some a) :
    ∀ b, (settle op s).2.engine.active = some b →
      b.workflow = a.workflow := by
  have hstays : (settle op s).2.engine.active = s.engine.active →
      ∀ b, (settle op s).2.engine.active = some b →
        b.workflow = a.workflow := by
    intro hsame b hb
    rw [hsame, hactive] at hb
    rw [Option.some.inj hb]
  cases op with
  | handle text intent =>
      intro b hb
      have hgoes := Engine.plan_continues hactive text intent
      rcases (settle_handle text intent s).place with hplace | hidle
      · have hworkflow := Engine.workflow?_eq_of_place hplace
        rw [hgoes.workflow?, Engine.workflow?, hb] at hworkflow
        exact Option.some.inj hworkflow
      · rw [hidle] at hb
        cases hb
  | announce message => exact hstays (by rw [settle_announce])
  | ask query => exact hstays (settle_running hop rfl rfl s).2
  | _ => cases hop

-- ============================================================= two stages

/-- The two stages show the same: the running activation, whether it captures,
what was heard, and all that anyone who holds on to a context can see. -/
structure Stage.Shows (s t : Stage) : Prop where
  active : t.engine.active = s.engine.active
  isCapturing : t.engine.isCapturing = s.engine.isCapturing
  strays : t.strays = s.strays
  rows : t.rows = s.rows
  ended : t.ended = s.ended
  events : t.events = s.events

/-- The stage `t` is `s` `upon` a registry of its own, up to what was noted
down. On both the same names are listened to, the same was heard, and nothing
calls the engine. -/
structure Stage.Above (s t : Stage) : Prop where
  alone : t.alone = s.alone.upon t.engine.registry
  emitter : t.emitter = s.emitter
  hears : ∀ name, t.hears name = s.hears name
  events : t.events = s.events
  keeps : s.KeepsToContexts
  passive : s.Passive
  passive' : t.Passive

section Above

variable {s t : Stage}

/-- Every `part` of `t.alone` is that of `s.alone` upon the registry of `t`. -/
theorem Stage.Above.part (h : s.Above t) {γ : Type} (part : Stage → γ) :
    part t.alone = part (s.alone.upon t.engine.registry) :=
  congrArg part h.alone

theorem Stage.Above.keeps' (h : s.Above t) : t.KeepsToContexts := by
  have hprograms : t.programs = s.programs := h.part Stage.programs
  unfold Stage.KeepsToContexts
  rw [hprograms]
  exact h.keeps

/-- If the active state is the same on both, `s` `Shows` what `t` does. -/
theorem Stage.Above.shows (h : s.Above t)
    (hstate : ∀ a, s.engine.active = some a →
      (s.engine.upon t.engine.registry).state? a = s.engine.state? a) :
    s.Shows t where
  active := h.part fun u => u.engine.active
  isCapturing := by
    have hengine : t.engine = s.engine.upon t.engine.registry :=
      h.part Stage.engine
    rw [hengine, Engine.isCapturing, Engine.isCapturing]
    show (s.engine.active.bind
      (s.engine.upon _).state?).any State.isCapture = _
    cases hactive : s.engine.active with
    | none => rfl
    | some a =>
        rw [Option.bind_some, Option.bind_some, hstate a hactive]
  strays := h.part Stage.strays
  rows := h.part Stage.rows
  ended := h.part Stage.ended
  events := h.events

/-- Hearing the same news on both stages keeps them `Above` one another. -/
theorem Stage.Above.hear (h : s.Above t) {news : List News} {s' t' : Stage}
    (hs : Heard s s' (news.flatMap s.hearings))
    (ht : Heard t t' (news.flatMap t.hearings)) : s'.Above t' := by
  have ht' := Stage.engine_eq_of_alone ht.alone
  have hhearings : t.hearings = s.hearings :=
    Stage.hearings_congr h.emitter h.hears (h.part fun u => u.engine.active)
  refine ⟨?_, ?_, fun name => ?_, ?_, ?_, hs.passive, ht.passive⟩
  · rw [hs.alone, ht.alone, ht']
    exact h.alone
  · rw [hs.emitter, ht.emitter, h.emitter]
  · rw [hs.hears, ht.hears, h.hears]
  · rw [hs.events, ht.events, h.events, hhearings]
  · unfold Stage.KeepsToContexts
    rw [Stage.programs_eq_of_alone hs.alone]
    exact h.keeps

/-- An operation whose `settle` commutes with `upon` keeps the stages `Above`
one another. The registry of `t` stays, and the engine is as the operation
settles it. -/
theorem Stage.Above.operates (h : s.Above t) {op : Operation}
    (hdirect : op.isDirect = true) (hsub : op.isSubscription = false)
    (hupon : (settle op (s.alone.upon t.engine.registry)).2
      = (settle op s.alone).2.upon t.engine.registry)
    (hnews : newsOf op (s.alone.upon t.engine.registry)
      = newsOf op s.alone) :
    (run op s).2.Above (run op t).2
      ∧ (run op t).2.engine.registry = t.engine.registry
      ∧ (run op s).2.engine = (settle op s.alone).2.engine
      ∧ ((settle op (s.alone.upon t.engine.registry)).1
          = (settle op s.alone).1 → (run op t).1 = (run op s).1) := by
  obtain ⟨hsrun, s', hs, hsaudience, hsheard⟩ :=
    run_settles hdirect hsub h.keeps h.passive
  obtain ⟨htrun, t', ht, htaudience, htheard⟩ :=
    run_settles hdirect hsub h.keeps' h.passive'
  have hback := settle_backstage hdirect hsub
  rw [← h.alone] at hupon hnews ⊢
  obtain ⟨hs₁, hs₂⟩ := hback.blind s
  obtain ⟨ht₁, ht₂⟩ := hback.blind t
  have halone : t'.alone = s'.alone.upon t.engine.registry := by
    rw [hs, ht, ← hs₂, ← ht₂, hupon]
    rfl
  have hregistry : t'.engine.registry = t.engine.registry := by
    have hsame := congrArg (fun u : Stage => u.engine.registry) halone
    exact hsame
  have hsengine : s'.engine = (settle op s.alone).2.engine :=
    Stage.engine_eq_of_alone (hs.trans hs₂.symm)
  have hslisteners : s'.listeners = s.listeners :=
    congrArg Audience.listeners hsaudience
  have htlisteners : t'.listeners = t.listeners :=
    congrArg Audience.listeners htaudience
  have habove : s'.Above t' := by
    refine ⟨?_, ?_, fun name => ?_, ?_, ?_, ?_, ?_⟩
    · rw [hregistry]
      exact halone
    · exact (congrArg Audience.emitter htaudience).trans
        (h.emitter.trans (congrArg Audience.emitter hsaudience).symm)
    · have hname := h.hears name
      unfold Stage.hears at hname ⊢
      rw [hslisteners, htlisteners, hname]
    · exact (congrArg Audience.events htaudience).trans
        (h.events.trans (congrArg Audience.events hsaudience).symm)
    · unfold Stage.KeepsToContexts
      rw [Stage.programs_eq_of_alone hs]
      exact hback.keeps (Operation.brings_keeps hdirect) h.keeps
    · unfold Stage.Passive
      rw [hslisteners]
      exact h.passive
    · unfold Stage.Passive
      rw [htlisteners]
      exact h.passive'
  have hnews : newsOf op t = newsOf op s := by
    unfold newsOf at hnews ⊢
    rw [← hs₁, ← ht₁, hnews]
  rw [hnews] at htheard
  refine ⟨habove.hear hsheard htheard, ?_, ?_, fun hresult => ?_⟩
  · rw [Stage.engine_eq_of_alone htheard.alone, hregistry]
  · rw [Stage.engine_eq_of_alone hsheard.alone, hsengine]
  · rw [hsrun, htrun, ← hs₁, ← ht₁, hresult]

end Above

-- =============================================================== two runs

/-- The stages differ in what is registered besides the definition under `w`,
and in what was noted down. No other workflow is running, and nothing on them
calls the engine. -/
structure Stage.Beside (w : String) (s t : Stage) : Prop where
  alone : t.alone = s.alone.upon t.engine.registry
  here : t.engine.registry.get? w = s.engine.registry.get? w
  running : ∀ a, s.engine.active = some a → a.workflow = w
  emitter : t.emitter = s.emitter
  hears : ∀ name, t.hears name = s.hears name
  events : t.events = s.events
  keeps : s.KeepsToContexts
  passive : s.Passive
  passive' : t.Passive

section Beside

variable {w : String} {s t : Stage}

theorem Stage.Beside.refl (hrunning : s.engine.workflow? = some w)
    (hkeeps : s.KeepsToContexts) (hs : s.Passive) : s.Beside w s where
  alone := rfl
  here := rfl
  running a ha := by
    rw [Engine.workflow?, ha] at hrunning
    exact Option.some.inj hrunning
  emitter := rfl
  hears _ := rfl
  events := rfl
  keeps := hkeeps
  passive := hs
  passive' := hs

/-- Stages that are `Beside` each other are `Above` one another. -/
theorem Stage.Beside.above (h : s.Beside w t) : s.Above t :=
  ⟨h.alone, h.emitter, h.hears, h.events, h.keeps, h.passive, h.passive'⟩

/-- Registering other definitions on one side keeps the stages `Beside` each
other. -/
theorem Stage.Beside.registers (h : s.Beside w t) {op : Operation}
    (hop : op.isRegistration = true)
    (hother : ∀ result ds, Registers op result ds → ∀ d ∈ ds, d.id ≠ w) :
    s.Beside w (run op t).2 := by
  obtain ⟨ds, hds, hstage⟩ := run_registers hop t
  have hpart := fun {γ : Type} (part : Stage → γ) => congrArg part hstage
  have hget : (t.engine.registry.registerAll ds).get? w
      = t.engine.registry.get? w := by
    rw [Registry.get?_registerAll, Registry.latest?_eq_none (hother _ ds hds),
      Option.none_or]
  have hlisteners : (run op t).2.listeners = t.listeners :=
    hpart Stage.listeners
  have hregistry : (run op t).2.engine.registry
      = t.engine.registry.registerAll ds :=
    hpart fun u => u.engine.registry
  refine ⟨?_, ?_, h.running, ?_, fun name => ?_, ?_, h.keeps, h.passive, ?_⟩
  · have halone : (run op t).2.alone = (t.enrolling ds).alone :=
      hpart Stage.alone
    rw [halone, hregistry]
    show t.alone.upon (t.engine.registry.registerAll ds) = _
    rw [h.alone]
    rfl
  · rw [hregistry, hget]
    exact h.here
  · exact (hpart Stage.emitter).trans h.emitter
  · rw [← h.hears, Stage.hears, Stage.hears, hlisteners]
  · exact (hpart Stage.events).trans h.events
  · unfold Stage.Passive
    rw [hlisteners]
    exact h.passive'

/-- A call on both sides keeps the stages `Beside` each other, and comes to the
same unless it `asksAbroad`. -/
theorem Stage.Beside.calls (h : s.Beside w t)
    (hrunning : s.engine.workflow? = some w) {op : Operation}
    (hop : op.isCall = true) :
    (op.asksAbroad w = false → (run op t).1 = (run op s).1)
      ∧ (run op s).2.Beside w (run op t).2 := by
  obtain ⟨a, hactive, rfl⟩ := Option.map_eq_some_iff.1 hrunning
  have hactive' : s.alone.engine.active = some a := hactive
  obtain ⟨hupon, hnews, hresult⟩ := settle_upon hactive' h.here hop
  obtain ⟨habove, hregistry, hengine, hsame⟩ := h.above.operates
    (Operation.isDirect_of_isCall hop)
    (Operation.not_isSubscription_of_isCall hop) hupon hnews
  refine ⟨fun habroad => hsame (hresult habroad), ?_⟩
  refine ⟨habove.alone, ?_, ?_, habove.emitter, habove.hears, habove.events,
    habove.keeps, habove.passive, habove.passive'⟩
  · rw [hregistry, hengine, settle_registry hop hactive']
    exact h.here
  · rw [hengine]
    exact settle_call_running hop hactive'

end Beside

-- =================================================================== runs

/-- Every one of the operations, in turn, finds the workflow `w` running. -/
def Stage.Hosts (w : String) : List Operation → Stage → Prop
  | [], _ => True
  | op :: rest, s => s.engine.workflow? = some w ∧ Hosts w rest (run op s).2

theorem Stage.Hosts.of_prefix {w : String} {ops sofar : List Operation}
    {s : Stage} (h : Stage.Hosts w ops s) (hsofar : sofar <+: ops) :
    Stage.Hosts w sofar s := by
  obtain ⟨rest, rfl⟩ := hsofar
  induction sofar generalizing s with
  | nil => exact trivial
  | cons op sofar ih => exact ⟨h.1, ih h.2⟩

/-- Whether the operation is a call that does not ask abroad. -/
def Operation.concerns (w : String) (op : Operation) : Bool :=
  op.isCall && !op.asksAbroad w

/-- The operations that `concerns` holds of, each with what it comes to. -/
def resultsFor (w : String) (ops : List Operation) (s : Stage) :
    List (Operation × Except Fault Reply) :=
  (ops.zip (runAll ops s).1).filter fun call => call.1.concerns w

theorem resultsFor_cons (w : String) (op : Operation) (ops : List Operation)
    (s : Stage) :
    resultsFor w (op :: ops) s
      = (if op.concerns w then [(op, (run op s).1)] else [])
        ++ resultsFor w ops (run op s).2 := by
  have hcons : resultsFor w (op :: ops) s
      = if op.concerns w then
          (op, (run op s).1) :: resultsFor w ops (run op s).2
        else resultsFor w ops (run op s).2 := List.filter_cons
  rw [hcons]
  by_cases h : op.concerns w = true
  · rw [if_pos h, if_pos h]
    rfl
  · rw [if_neg h, if_neg h]
    rfl

/-- The operation registers definitions, and none under `w`. -/
def Operation.Avoids (w : String) (op : Operation) : Prop :=
  op.isRegistration = true
    ∧ ∀ result ds, Registers op result ds → ∀ d ∈ ds, d.id ≠ w

theorem Stage.Beside.shows {w : String} {s t : Stage} (h : s.Beside w t) :
    s.Shows t := by
  refine h.above.shows fun a hactive => Engine.state?_upon ?_
  rw [h.running a hactive]
  exact h.here

/-- Runs that begin `Beside` each other, one of them with other registrations
in between, stay so. -/
theorem Stage.Beside.runAll {w : String} (ops : List Operation)
    {s t : Stage} (h : s.Beside w t)
    (hops : ∀ op ∈ ops, op.isCall = true ∨ op.Avoids w)
    (hhosts : Stage.Hosts w (ops.filter Operation.isCall) s) :
    resultsFor w ops t = resultsFor w (ops.filter Operation.isCall) s
      ∧ (runAll (ops.filter Operation.isCall) s).2.Beside w
        (runAll ops t).2 := by
  induction ops generalizing s t with
  | nil => exact ⟨rfl, h⟩
  | cons op rest ih =>
      have hrest : ∀ op' ∈ rest, op'.isCall = true ∨ op'.Avoids w :=
        fun op' h' => hops op' (List.mem_cons_of_mem _ h')
      cases hcall : op.isCall with
      | true =>
          rw [List.filter_cons_of_pos hcall] at hhosts ⊢
          obtain ⟨hresult, hbeside⟩ := h.calls hhosts.1 hcall
          obtain ⟨hresults, hend⟩ := ih hbeside hrest hhosts.2
          refine ⟨?_, hend⟩
          rw [resultsFor_cons, resultsFor_cons, hresults]
          cases habroad : op.asksAbroad w with
          | false => rw [hresult habroad]
          | true => simp [Operation.concerns, habroad]
      | false =>
          have hnot : ¬ op.isCall = true := by rw [hcall]; exact nofun
          rw [List.filter_cons_of_neg hnot] at hhosts ⊢
          obtain ⟨hop, hother⟩ :=
            (hops op (List.mem_cons_self ..)).resolve_left hnot
          obtain ⟨hresults, hend⟩ := ih (h.registers hop hother) hrest hhosts
          refine ⟨?_, hend⟩
          have hconcerns : op.concerns w = false := by
            rw [Operation.concerns, hcall, Bool.false_and]
          rw [resultsFor_cons, hconcerns, hresults]
          rfl

/-- A running workflow is isolated from the registrations of others. Calls
are made on a stage where a workflow is running, up to and including the one
at which it ends. Whatever is registered besides under other ids, before,
between and after the calls: every call that does not ask about what else is
registered comes to what it would have come to, and after every operation
the two stages show the same. -/
theorem runAll_isolated (w : String) (ops : List Operation) (s : Stage)
    (hrunning : s.engine.workflow? = some w) (hkeeps : s.KeepsToContexts)
    (hpassive : s.Passive)
    (hops : ∀ op ∈ ops, op.isCall = true ∨ op.Avoids w)
    (hhosts : Stage.Hosts w (ops.filter Operation.isCall) s) :
    resultsFor w ops s = resultsFor w (ops.filter Operation.isCall) s
      ∧ ∀ sofar, sofar <+: ops →
        (runAll (sofar.filter Operation.isCall) s).2.Shows
          (runAll sofar s).2 := by
  have hstart := Stage.Beside.refl hrunning hkeeps hpassive
  refine ⟨(hstart.runAll ops hops hhosts).1, fun sofar hsofar => ?_⟩
  obtain ⟨-, hend⟩ := hstart.runAll sofar
    (fun op hop => hops op (hsofar.subset hop))
    (hhosts.of_prefix (hsofar.filter Operation.isCall))
  exact hend.shows

/-- A stage with a workflow running that the exit phrase "stop" ends. -/
def hosting : Stage :=
  let first : Definition :=
    { usher "first" "start" with exitPhrases := ["stop"] }
  { lobby with
    engine :=
      { registry := ({} : Registry).register first
        active := some { serial := 0, workflow := "first", state := some "a" }
        activations := 1 } }

/-- On `hosting` the workflow goes on and ends as if no one else had been
registered, though the others have the trigger of the inputs. -/
theorem runAll_isolated_hosting :
    let ops : List Operation := [
      .registerDefinition (usher "second" "go"), .handle "well" "go",
      .registerDefinition (usher "third" "go"), .handle "stop" "go"]
    (hosting.engine.workflow? = some "first"
        ∧ Stage.Hosts "first" (ops.filter Operation.isCall) hosting)
      ∧ resultsFor "first" ops hosting
        = resultsFor "first" (ops.filter Operation.isCall) hosting
      ∧ ∀ sofar, sofar <+: ops →
        (runAll (sofar.filter Operation.isCall) hosting).2.Shows
          (runAll sofar hosting).2 := by
  intro ops
  have hrunning : hosting.engine.workflow? = some "first" := rfl
  have hregisters : ∀ {d : Definition}, d.id ≠ "first" →
      (Operation.registerDefinition d).Avoids "first" := by
    intro d hd
    refine ⟨rfl, fun result ds h d' hd' => ?_⟩
    cases h
    rw [List.mem_singleton.1 hd']
    exact hd
  have hops : ∀ op ∈ ops, op.isCall = true ∨ op.Avoids "first" := by
    simp only [ops, List.forall_mem_cons]
    exact ⟨.inr (hregisters (by decide)), .inl rfl,
      .inr (hregisters (by decide)), .inl rfl, nofun⟩
  have hhosts : Stage.Hosts "first" (ops.filter Operation.isCall) hosting :=
    ⟨hrunning, by decide +kernel, trivial⟩
  exact ⟨⟨hrunning, hhosts⟩,
    runAll_isolated "first" ops hosting hrunning nofun nofun hops hhosts⟩

/-- Whether an intent is a trigger (`shouldTrigger`) depends on all that is
registered, whatever is running. -/
theorem shouldTrigger_not_isolated :
    let other : Operation := .registerDefinition (usher "second" "go")
    let question : Operation := .ask (.shouldTrigger "go")
    hosting.engine.workflow? = some "first"
      ∧ Registers other (run other hosting).1 [usher "second" "go"]
      ∧ (run question hosting).1 = .ok (.truth false)
      ∧ (run question (run other hosting).2).1 = .ok (.truth true) :=
  ⟨rfl, .definition, rfl, rfl⟩

end Script
end Colloquy
