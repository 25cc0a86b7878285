/-
Runs in which nothing fails. The stages here are fit: targets lead
somewhere, a running workflow has a state, listeners run no operations, and
handlers keep to their contexts, return, and leave proper drafts
(`Stage.Fit`). On a fit stage every regular operation comes to a reply, and
the stage is fit afterwards (`run_serves`); so a run of regular operations
goes through (`runAll_faultless`).

What may still go wrong with definitions is dealt with inside the engine: a
state that is not there, a definition that was replaced or whose registry
was, a handler that nobody registered, a cap below zero. Listeners may fail
as often as they like.

# Texts

A handler that puts something else than a text into the buffer, or remembers
a value without a text, can make a message impossible, and the input or the
announcement that needs the message fails. That is the one fault left to
those who keep the rules above (`number_unreadable`).
-/
import Colloquy.Proofs.Engine.Fit
import Colloquy.Proofs.Script.Episodes
import Colloquy.Proofs.Script.Registering

namespace Colloquy

namespace Script

-- =============================================================== handlers

/-- Every instruction of the program is a `touch` that returns, and leaves a
`Proper` draft where it found one. -/
structure Program.Returns (p : Program) : Prop where
  keeps : p.keepsToContext = true
  returns : ∀ change, .touch change ∈ p.instructions → ∀ text d,
    d.Proper → ∃ d', change text d = .ok d' ∧ d'.Proper

/-- A change that always returns a `Proper` draft leaves no other. -/
theorem proper_of_returns {change : Draft → Except Fault Draft}
    (h : ∀ d, d.Proper → ∃ d', change d = .ok d' ∧ d'.Proper)
    (d d' : Draft) (hd : d.Proper) (hd' : change d = .ok d') :
    d'.Proper := by
  obtain ⟨d'', hd'', hproper⟩ := h d hd
  cases hd'.symm.trans hd''
  exact hproper

theorem Program.Returns.tame {p : Program} (h : p.Returns) : p.Tame :=
  ⟨h.keeps, fun change hchange text =>
    proper_of_returns (h.returns change hchange text)⟩

section

variable {s : Stage} {a : Activation}

/-- An edit by such a change returns, and leaves the stage `ClearAt` its
serial. -/
theorem edit_returns {change : Draft → Except Fault Draft} {serial : Nat}
    (hchange : ∀ d, d.Proper → ∃ d', change d = .ok d' ∧ d'.Proper)
    (hs : s.ClearAt serial) :
    (edit serial change s).1 = .ok ()
      ∧ (edit serial change s).2.ClearAt serial := by
  refine ⟨?_, edit_clear (proper_of_returns hchange) hs⟩
  obtain ⟨hclear, a, hactive, rfl⟩ := hs
  obtain ⟨d, hd, -⟩ := hchange _ (hclear.draft hactive)
  unfold edit
  rw [get_bind_apply, hd]
  rfl

/-- To return and leave the stage `ClearAt` a serial is a `Law`. -/
theorem returns_law (serial : Nat) : Law fun m _ => ∀ s,
    s.ClearAt serial → (m s).1 = .ok () ∧ (m s).2.ClearAt serial where
  nothing := fun _ hs => ⟨rfl, hs⟩
  andThen := @fun m _ k _ hm hk s hs => by
    obtain ⟨hok, hclear⟩ := hm s hs
    rw [bind_of_ok (Prod.ext hok rfl : m s = (.ok (), (m s).2))]
    exact hk _ hclear
  look := fun _ _ hk s hs => hk s s hs

/-- On a `Clear` stage whose programs are such as `Returns` says, `touch`
returns. -/
theorem touch_returns (text : String) (hook : Hook)
    (hreturns : ∀ p ∈ s.programs, p.Returns) (hs : s.Clear)
    (hactive : s.engine.active = some a) :
    (touch text a hook s).1 = .ok () := by
  have hs : s.ClearAt a.serial := ⟨hs, a, hactive, rfl⟩
  cases hook with
  | plain handler =>
      have hgather : ∀ d : Draft, d.Proper →
          ∃ d', (d.gather handler text).mapError Fault.sum = .ok d'
            ∧ d'.Proper := by
        intro d hd
        obtain ⟨d', hd', hproper⟩ := hd.gather handler text
        rw [hd']
        exact ⟨d', rfl, hproper⟩
      exact (edit_returns hgather hs).1
  | program slot =>
      simp only [touch]
      rw [get_bind_apply]
      cases hp : s.programs[slot]? with
      | none => rfl
      | some p =>
          have hchanges := (hreturns p (List.mem_of_getElem? hp)).returns
          exact ((returns_law a.serial).touchAll
            (fun change hchange t ht =>
              edit_returns (hchanges change hchange text) ht) s hs).1

end

-- ============================================================= operations

/-- Whether the query is about the engine or its registry, and not about a
record: a definition that was built by hand may have none. -/
def Query.isPlain : Query → Bool
  | .record _ | .subscribers _ => false
  | _ => true

/-- An operation that keeps the rules: what is registered can be read and
`Leads`, and handlers are programs such as `Returns` says. -/
inductive Operation.Regular : Operation → Prop
  | handle {text intent : String} : Regular (.handle text intent)
  | announce {message : String} : Regular (.announce message)
  | reset : Regular .reset
  | definition {d : Definition} (h : d.Leads) :
      Regular (.registerDefinition d)
  | record {record : String} {v : Value} {d : Definition}
      (hjson : Json.read record.toList = .ok v)
      (hrecord : Record.read v = .ok d) : Regular (.register record)
  | batch {text : String} {ds : List Definition}
      (h : Batch.Hold (Text.lines text.toList) ds) :
      Regular (.loadBatch text)
  | registry {text : String} {ds : List Definition}
      (h : Batch.Hold (Text.lines text.toList) ds) :
      Regular (.swapRegistry text)
  | handler {name : String} {p : Program} (h : p.Returns) :
      Regular (.registerHandler name p)
  | query {query : Query} (h : query.isPlain = true) :
      Regular (.ask query)

theorem Operation.Regular.calm {op : Operation} (h : op.Regular) :
    op.Calm := by
  cases h with
  | @handler name p h =>
      refine ⟨rfl, fun p' hp => ?_⟩
      rw [List.mem_singleton.1 hp]
      exact h.tame
  | @query query h =>
      cases query with
      | record id => cases h
      | subscribers event => cases h
      | _ => exact ⟨rfl, nofun⟩
  | _ => exact ⟨rfl, nofun⟩

theorem Operation.Regular.brings {op : Operation} (h : op.Regular) :
    ∀ p ∈ op.brings, p.Returns := by
  cases h with
  | @handler name p h =>
      intro p' hp
      rw [List.mem_singleton.1 hp]
      exact h
  | _ => exact nofun

theorem Operation.Regular.notSubscription {op : Operation}
    (h : op.Regular) : op.isSubscription = false := by
  cases h <;> rfl

/-- Every definition that lines `Hold` is one that `Leads`. -/
theorem leads_of_hold {texts : List (List Char)} {ds : List Definition}
    (h : Batch.Hold texts ds) : ∀ d ∈ ds, d.Leads := by
  unfold Batch.Hold at h
  generalize texts.filter Text.saysSomething = lines at h
  induction h with
  | nil => exact nofun
  | cons hfirst _ ih =>
      obtain ⟨members, -, hrecord⟩ := hfirst
      exact List.forall_mem_cons.2
        ⟨(Record.canonical_of_read hrecord).leads, ih⟩

/-- A `Regular` registration succeeds, with definitions that lead somewhere. -/
theorem Registers.of_regular {op : Operation} {result : Except Fault Reply}
    {ds : List Definition} (h : Registers op result ds) (hop : op.Regular) :
    (∃ reply, result = .ok reply) ∧ ∀ d ∈ ds, d.Leads := by
  cases h with
  | definition =>
      cases hop with
      | definition hleads =>
          exact ⟨⟨_, rfl⟩, List.forall_mem_singleton.2 hleads⟩
  | record hjson hrecord =>
      exact ⟨⟨_, rfl⟩, List.forall_mem_singleton.2
        (Record.canonical_of_read hrecord).leads⟩
  | noRecord hnone =>
      cases hop with
      | record hjson hrecord => exact absurd hrecord (hnone _ _ hjson)
  | batch hds => exact ⟨⟨_, rfl⟩, leads_of_hold hds⟩
  | noBatch hnone =>
      cases hop with
      | batch hds => exact absurd ⟨_, hds⟩ hnone

-- ================================================================= stages

/-- The engine is `Fit`, the stage `Clear`, every program one that `Returns`,
and every listener `Passive`. -/
structure Stage.Fit (s : Stage) : Prop where
  returns : ∀ p ∈ s.programs, p.Returns
  passive : s.Passive
  clear : s.Clear
  engine : s.engine.Fit

theorem Stage.Fit.calm {s : Stage} (h : s.Fit) : s.Calm :=
  ⟨fun p hp => (h.returns p hp).tame, h.passive, h.clear⟩

/-- A handler that keeps to its context `Leaves` the registry. -/
theorem touch_leaves_registry (text : String) (a : Activation) (hook : Hook) :
    Leaves (fun s : Stage => s.engine.registry) (touch text a hook) := by
  refine leaves_law.touch (fun serial change => ?_) text a hook
  refine leaves_get fun s => ?_
  cases change (s.draft serial) with
  | error fault => exact fun _ => rfl
  | ok d => exact fun _ => rfl

/-- On a `Fit` stage, an input settles, keeps the registry, and goes to the
place that its plan says. -/
theorem settle_handle_fit {s : Stage} (hs : s.Fit) (text intent : String) :
    ∃ r t, settle (.handle text intent) s = (.ok r, t)
      ∧ t.engine.registry = s.engine.registry
      ∧ t.engine.place
        = (s.engine.plan text intent).carryOut.engine.place := by
  have hwhole := Engine.plan_whole hs.engine.leads text intent
  obtain ⟨t, hcarry, ht, hclear⟩ := carryOut_calm hs.clear text intent
  have hreturns : ∀ q ∈ (carryOut (s.engine.plan text intent) s).2.programs,
      q.Returns := (carryOut_backstage _).all (by simp) hs.returns
  simp only [settle]
  rw [get_bind_apply, bind_of_ok hcarry]
  rw [hcarry] at hreturns
  have hregistry : t.engine.registry = s.engine.registry := by
    rw [ht]
    exact hwhole.registry
  have hplace := congrArg Engine.place ht
  dsimp only
  cases hstep : (s.engine.plan text intent).carryOut.step with
  | settled outcome => exact ⟨_, t, rfl, hregistry, hplace⟩
  | failed fault => exact absurd hstep (hwhole.step fault)
  | capture hook a state =>
      have hcaptured := Engine.carryOut_captured hstep
      have hactive : t.engine.active = some a := ht ▸ hcaptured
      have htouched := (touch_leaves_place text a hook t).trans hplace
      have hkept := (touch_leaves_registry text a hook t).trans hregistry
      have hreturned : touch text a hook t
          = (.ok (), (touch text a hook t).2) :=
        Prod.ext (touch_returns text hook hreturns hclear hactive) rfl
      dsimp only
      rw [bind_of_ok hreturned, get_bind_apply]
      generalize (touch text a hook t).2 = u at htouched hkept ⊢
      have hstays : u.engine.place = some (a.workflow, a.state) := by
        rw [show u.engine.place = _ from htouched, Engine.place, hcaptured]
        rfl
      obtain ⟨b, hb, -⟩ := Option.map_eq_some_iff.1 hstays
      unfold Engine.captured
      rw [hb]
      exact ⟨_, u, rfl, hkept, htouched⟩

/-- Whether an engine is `Fit` depends on its registry and the running
activation only. -/
theorem fit_of_eq {e e' : Engine Hook} (h : e.Fit)
    (hregistry : e'.registry = e.registry) (hactive : e'.active = e.active) :
    e'.Fit := by
  refine ⟨?_, ?_⟩
  · rw [hregistry]
    exact h.leads
  · rw [Engine.place_eq_of_active hactive]
    exact h.placed

/-- A `Regular` registration succeeds, and leaves the engine `Fit`. -/
theorem registration_fit {op : Operation} (hop : op.Regular)
    (hregistration : op.isRegistration = true) {s : Stage}
    (hs : s.engine.Fit) :
    (∃ reply, (perform deaf op s).1 = .ok reply)
      ∧ (perform deaf op s).2.engine.Fit := by
  obtain ⟨ds, hresult, hstage⟩ := perform_registers deaf hregistration s
  obtain ⟨hreply, hleads⟩ := hresult.of_regular hop
  have hengine : (perform deaf op s).2.unnoted.engine
      = (s.enrolling ds).unnoted.engine := congrArg Stage.engine hstage
  refine ⟨hreply, ?_⟩
  show (perform deaf op s).2.unnoted.engine.Fit
  rw [hengine]
  exact ⟨hs.leads.registerAll hleads, hs.placed⟩

/-- The same for `swapRegistry` with lines that hold definitions: whatever was
running goes on to run, and its definition may be gone. -/
theorem swapRegistry_fit {text : String} {ds : List Definition}
    (h : Batch.Hold (Text.lines text.toList) ds) {s : Stage}
    (hs : s.engine.Fit) :
    (∃ reply, (swapRegistry text s).1 = .ok reply)
      ∧ (swapRegistry text s).2.engine.Fit := by
  have hload : ∃ t : Stage, t.engine = { s.engine with registry := {} }
      ∧ swapRegistry text s
        = takeLoaded ((({} : Registry).loadBatch text.toList).mapError
          .batch) t := ⟨_, rfl, rfl⟩
  obtain ⟨t, ht, hload⟩ := hload
  rw [hload]
  rcases ({} : Registry).loadBatch_cases text.toList
    with ⟨ds, hds, hloaded⟩ | ⟨number, fault, hstops, -⟩
  · rw [hloaded]
    refine ⟨⟨_, rfl⟩, ?_, ?_⟩
    · exact Registry.leads_empty.registerAll (leads_of_hold hds)
    · show ∀ workflow state, t.engine.place = some (workflow, state) → _
      rw [ht]
      exact hs.placed
  · exact absurd ⟨ds, h⟩ hstops.not_hold

/-- The same for every `Regular` operation that is not told of. -/
theorem perform_fit {op : Operation} (hop : op.Regular)
    (htold : op.isTold = false) {s : Stage} (hs : s.engine.Fit) :
    (∃ reply, (perform deaf op s).1 = .ok reply)
      ∧ (perform deaf op s).2.engine.Fit := by
  have hregular := hop
  cases hop with
  | handle => cases htold
  | announce => cases htold
  | reset =>
      refine ⟨⟨_, rfl⟩, hs.leads, ?_⟩
      intro workflow state hplace
      cases hplace
  | definition h => exact registration_fit hregular rfl hs
  | record hjson hrecord => exact registration_fit hregular rfl hs
  | batch h => exact registration_fit hregular rfl hs
  | registry h => exact swapRegistry_fit h hs
  | handler h => exact ⟨⟨_, rfl⟩, fit_of_eq hs rfl rfl⟩
  | @query query h =>
      cases query with
      | record id => cases h
      | subscribers event => cases h
      | _ => exact ⟨⟨_, rfl⟩, hs⟩

/-- On a `Fit` stage, a `Regular` operation settles and leaves the engine
`Fit`; after an input the engine is `Keyed`. -/
theorem settle_fit {op : Operation} (hop : op.Regular) {s : Stage}
    (hs : s.Fit) :
    ∃ r t, settle op s = (.ok r, t) ∧ t.engine.Fit
      ∧ ∀ text intent, op = .handle text intent → t.engine.Keyed := by
  cases htold : op.isTold with
  | false =>
      obtain ⟨⟨reply, hreply⟩, hfit⟩ := perform_fit hop htold hs.engine
      rw [settle_quiet htold, hreply]
      refine ⟨(reply, []), _, rfl, hfit, ?_⟩
      rintro text intent rfl
      cases htold
  | true =>
      cases op with
      | handle text intent =>
          obtain ⟨r, t, hsettle, hregistry, hplace⟩ :=
            settle_handle_fit hs text intent
          have hwhole := Engine.plan_whole hs.engine.leads text intent
          have hkeyed : t.engine.Keyed := by
            intro workflow state h
            rw [hregistry, ← hwhole.registry]
            exact hwhole.keyed workflow state (hplace.symm.trans h)
          refine ⟨r, t, hsettle, ⟨?_, ?_⟩, fun _ _ _ => hkeyed⟩
          · rw [hregistry]
            exact hs.engine.leads
          · intro workflow state h
            obtain ⟨d, key, s', -, hkey, -⟩ := hkeyed workflow state h
            rw [hkey]
            exact nofun
      | announce message =>
          have hdemand := demand_clear
            (Stage.stray?_of_strays hs.clear.strays) (some message)
          have hsettle : settle (.announce message) s
              = (.ok (.action (s.engine.announce message),
                [(s.engine.announce message, none)]), s) :=
            bind_of_ok hdemand
          exact ⟨_, s, hsettle, hs.engine, nofun⟩
      | _ => cases htold

-- =================================================================== runs

/-- What was `heard` with a workflow running was heard with a state active. -/
def Event.Placed : Event → Prop
  | .heard _ _ _ workflow state => workflow ≠ none → state ≠ none
  | .nested _ => True

/-- How an operation is served: it comes to a reply. An input's course is no
`failed`, and what it is about is running. A workflow that is running
afterwards has a state, and so has one that listeners find running; after an
input the engine is `Keyed`. -/
structure Stage.Serves (s : Stage) (op : Operation) : Prop where
  replies : ∃ reply, (run op s).1 = .ok reply
  whole : ∀ text intent, op = .handle text intent →
    ∀ fault, (s.engine.plan text intent).course ≠ .failed fault
  about : ∀ text intent, op = .handle text intent →
    ∀ a, (s.engine.plan text intent).course.activation? = some a →
      (s.engine.plan text intent).engine.active = some a
  placed : ∀ a, (run op s).2.engine.active = some a → a.state ≠ none
  heard : ∃ events, (run op s).2.events = s.events ++ events
    ∧ ∀ event ∈ events, event.Placed
  keyed : ∀ text intent, op = .handle text intent →
    ∀ a, (run op s).2.engine.active = some a →
      ∃ d key state, (run op s).2.engine.registry.get? a.workflow = some d
        ∧ a.state = some key ∧ d.states.get? key = some state

/-- With a `Fit` engine, every event of `hearings` is `Placed`. -/
theorem hearings_placed {s : Stage} (hs : s.engine.Fit) (news : News) :
    ∀ event ∈ s.hearings news, event.Placed := by
  intro event hevent
  obtain ⟨name, -, hname⟩ := List.mem_flatMap.1 hevent
  unfold Stage.hearing at hname
  by_cases hhears : s.hears name = true
  · rw [if_pos hhears] at hname
    rw [List.mem_singleton.1 hname]
    intro hworkflow
    unfold Engine.workflow? at hworkflow
    cases hactive : s.engine.active with
    | none =>
        rw [hactive] at hworkflow
        exact absurd rfl hworkflow
    | some a =>
        unfold Engine.stateKey?
        rw [hactive]
        refine hs.placed a.workflow a.state ?_
        rw [Engine.place, hactive]
        rfl
  · rw [if_neg hhears] at hname
    cases hname

/-- A `Fit` stage `Serves` every `Regular` operation and is fit afterwards. -/
theorem run_serves {op : Operation} (hop : op.Regular) {s : Stage}
    (hs : s.Fit) : s.Serves op ∧ (run op s).2.Fit := by
  obtain ⟨r, t, hsettle, hfit, hkeyed⟩ := settle_fit hop hs
  obtain ⟨hresult, halone, hpassive, hevents⟩ :=
    run_heard hop.calm.direct hop.notSubscription hs.calm.keeps hs.passive
  have hengine : (run op s).2.engine = t.engine := by
    rw [Stage.engine_eq_of_alone halone, hsettle]
  have hfit : (run op s).2.engine.Fit := by
    rw [hengine]
    exact hfit
  have hafter : (run op s).2.Fit := by
    refine ⟨?_, hpassive, (run_calm hop.calm hs.calm).clear, hfit⟩
    rw [Stage.programs_eq_of_alone halone]
    exact (settle_backstage hop.calm.direct hop.notSubscription).all
      hop.brings hs.returns
  refine ⟨⟨?_, ?_, ?_, ?_, ?_, ?_⟩, hafter⟩
  · rw [hresult, hsettle]
    exact ⟨_, rfl⟩
  · intro text intent _
    exact (Engine.plan_whole hs.engine.leads text intent).whole
  · intro text intent _ a ha
    obtain ⟨e, b, hgoes, -⟩ := Engine.plan_workflow ha
    exact hgoes.course a ha
  · intro a ha
    exact hfit.placed a.workflow a.state (congrArg _ ha)
  · refine ⟨_, hevents, fun event hevent => ?_⟩
    obtain ⟨news, -, hnews⟩ := List.mem_flatMap.1 hevent
    exact hearings_placed hfit news event hnews
  · intro text intent hhandle a ha
    rw [hengine] at ha ⊢
    exact hkeyed text intent hhandle a.workflow a.state (congrArg _ ha)

/-- Running `Regular` operations leaves a `Fit` stage fit. -/
theorem runAll_fit (ops : List Operation) {s : Stage}
    (hops : ∀ op ∈ ops, op.Regular) (hs : s.Fit) : (runAll ops s).2.Fit := by
  induction ops generalizing s with
  | nil => exact hs
  | cons op rest ih =>
      have hfirst := (run_serves (hops op (List.mem_cons_self ..)) hs).2
      exact ih (fun op' h => hops op' (List.mem_cons_of_mem _ h)) hfirst

/-- Nothing fails at run time. A `Fit` stage `Serves` all `Regular` operations
one after another: each comes to a reply, no rule of the engine is broken, and
a running workflow always has a state, which after every input is one that its
definition has. -/
theorem runAll_faultless (ops : List Operation) (s : Stage) (hs : s.Fit)
    (hops : ∀ op ∈ ops, op.Regular) :
    ∀ before op after, ops = before ++ op :: after →
      (runAll before s).2.Serves op := by
  rintro before op after rfl
  have hbefore := runAll_fit before
    (fun op' h => hops op' (List.mem_append_left _ h)) hs
  have hop := hops op (List.mem_append_right _ (List.mem_cons_self ..))
  exact (run_serves hop hbefore).1

/-- A workflow whose only state does not stand under its id, and whose only
transition leads nowhere. -/
def wayward : Definition where
  id := "wayward"
  trigger := "start"
  initial := "a"
  states := .ofList [("a",
    { id := "other", onEnter := "Here.", handler := some "note"
      transitions :=
        .ofList [("away", { kind := .goto, state := some "b" })] })]

/-- A program that replaces the buffer by the last text. -/
def noting : Program := .mk [.touch fun text d => .ok (d.put (.string text))] 0

/-- A stage with `wayward` and with `noting` for its handler, and with a
listener that fails. -/
def grumbling : Stage where
  engine := { handlers := .ofList [("note", .program 0)] }
  emitter := ({} : Emitter).subscribe .inputCaptured "grumbler"
  listeners := .ofList [("grumbler", { reactions := [.fail "Not again."] })]
  programs := [noting]
  disk := { find := fun _ => .ok .device }

theorem wayward_leads : wayward.Leads := by
  intro entry hentry
  obtain rfl := List.mem_singleton.1 hentry
  refine ⟨fun target htarget => ?_, .inl rfl⟩
  obtain rfl := List.mem_singleton.1 htarget
  exact .inr ⟨"b", rfl, rfl⟩

theorem grumbling_fit : grumbling.Fit := by
  refine ⟨?_, ?_, ⟨rfl, nofun⟩, Registry.leads_empty, nofun⟩
  · intro p hp
    obtain rfl := List.mem_singleton.1 hp
    refine ⟨rfl, fun change hchange text d hd => ?_⟩
    cases List.mem_singleton.1 hchange
    exact ⟨_, rfl, ⟨text, rfl⟩, hd.texts⟩
  · intro l hl
    obtain rfl := List.mem_singleton.1 hl
    rfl

/-- On `grumbling` an input is captured, and the next one leads nowhere; and
then the registry is replaced by an empty one. -/
theorem runAll_faultless_grumbling :
    let ops : List Operation := [.registerDefinition wayward,
      .handle "" "start", .handle "hello" "", .handle "" "away",
      .swapRegistry ""]
    (runAll ops grumbling).1.map Except.toBool
        = [true, true, true, true, true]
      ∧ ∀ before op after, ops = before ++ op :: after →
        (runAll before grumbling).2.Serves op := by
  intro ops
  refine ⟨by decide +kernel, ?_⟩
  refine runAll_faultless ops grumbling grumbling_fit ?_
  have hempty : Batch.Hold (Text.lines "".toList) [] := .nil
  exact List.forall_mem_cons.2 ⟨.definition wayward_leads,
    List.forall_mem_cons.2 ⟨.handle, List.forall_mem_cons.2 ⟨.handle,
      List.forall_mem_cons.2 ⟨.handle,
        List.forall_mem_singleton.2 (.registry hempty)⟩⟩⟩⟩

/-- A workflow whose second state shows the buffer that was gathered in the
first. -/
def repeating : Definition where
  id := "repeating"
  trigger := "start"
  initial := "a"
  states := .ofList [
    ("a", { id := "a", onEnter := "Here.", handler := some "note"
            transitions := .ofList [("next",
              { kind := .goto, state := some "b" })] }),
    ("b", { id := "b", onEnter := "\x7b\x7bbuffer\x7d\x7d" })]

theorem repeating_leads : repeating.Leads := by
  intro entry hentry
  rcases List.mem_cons.1 hentry with rfl | hentry
  · refine ⟨fun target htarget => ?_, .inl rfl⟩
    obtain rfl := List.mem_singleton.1 htarget
    exact .inr ⟨"b", rfl, rfl⟩
  · obtain rfl := List.mem_singleton.1 hentry
    exact ⟨nofun, .inl rfl⟩

/-- The handler `numbering` returns and touches nothing but its context, and
yet an input fails: the message of the second state of `repeating` cannot be
made. -/
theorem number_unreadable :
    let s : Stage := { grumbling with programs := [numbering] }
    repeating.Leads
      ∧ (∀ p ∈ s.programs, p.keepsToContext = true
        ∧ ∀ change, .touch change ∈ p.instructions →
          ∀ text d, ∃ d', change text d = .ok d')
      ∧ (runAll [.registerDefinition repeating, .handle "" "start",
          .handle "five" "", .handle "" "next"] s).1.map Except.toBool
        = [true, true, true, false] := by
  intro s
  refine ⟨repeating_leads, ?_, by decide +kernel⟩
  intro p hp
  obtain rfl := List.mem_singleton.1 hp
  exact ⟨rfl, numbering_returns⟩

end Script
end Colloquy
