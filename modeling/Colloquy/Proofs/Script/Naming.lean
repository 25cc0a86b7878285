/-
The names that actions carry. An action that says which state was entered, or
that the handler of a state took an input, names a workflow and a state. When
the input returns, the engine is where the action says: the action is made
after the handler, a handler that keeps to its context moves nothing, and
neither do listeners that stay away from the running workflow (`Rests`).

A state has two names, the key under which its definition has it and an id of
its own, and nothing makes the two agree. What an action carries is the key,
with one exception: where the key is empty, an input is said to be captured by
the id instead, which is not where the engine is (`Stage.NamesPlace`).
-/
import Colloquy.Proofs.Script.Linear
import Colloquy.Proofs.Script.Reentry

namespace Colloquy

namespace Engine

universe u

variable {H : Type u} {e : Engine H}

/-- A plan whose course is `arrive` leaves the engine at the state. -/
theorem plan_arrive_place {text intent workflow key template : String}
    {b : Activation}
    (h : (e.plan text intent).course = .arrive b workflow key template) :
    (e.plan text intent).engine.place = some (workflow, some key) := by
  have hb : (e.plan text intent).course.activation? = some b := by
    rw [h]
    rfl
  obtain ⟨e', a, hgoes, hworkflow, -⟩ := plan_workflow hb
  obtain ⟨hown, hstate⟩ := hgoes.arrives b workflow key template h
  unfold place
  rw [hgoes.course b hb, hown, hworkflow, ← hstate]
  rfl

/-- A plan whose course is `capture` keeps the `place`. -/
theorem plan_capture_place {text intent : String} {hook : H} {b : Activation}
    {state : State}
    (h : (e.plan text intent).course = .capture hook b state) :
    (e.plan text intent).engine.place = e.place := by
  obtain ⟨a, hactive, -, -, hplan⟩ := plan_capture h
  unfold place
  rw [hplan, hactive]
  rfl

/-- What `state?` finds stands under a key. -/
theorem key_of_state? {a : Activation} {state : State}
    (h : e.state? a = some state) : ∃ key, a.state = some key := by
  obtain ⟨d, -, hd⟩ := Option.bind_eq_some_iff.1 h
  obtain ⟨key, hkey, -⟩ := Option.bind_eq_some_iff.1 hd
  exact ⟨key, hkey⟩

/-- A plan settles on no `inputCaptured`. -/
theorem Plan.step_ne_captured (p : Plan H) (workflow name : String) :
    p.carryOut.step ≠ .settled (.done (.inputCaptured workflow name)) := by
  obtain ⟨engine, entries, course⟩ := p
  cases course with
  | _ => exact nofun

theorem workflow?_of_place {workflow : String} {key : Option String}
    (h : e.place = some (workflow, key)) :
    e.workflow? = some workflow ∧ e.stateKey? = key := by
  obtain ⟨a, ha, hplace⟩ := Option.map_eq_some_iff.1 h
  cases hplace
  unfold workflow? stateKey?
  rw [ha]
  exact ⟨rfl, rfl⟩

end Engine

/-- The `stateName` at a state is its key, unless that is empty. -/
theorem Activation.stateName_eq {a : Activation} {key : String}
    (h : a.state = some key) (state : State) :
    a.stateName state = if key = "" then state.id else key := by
  unfold Activation.stateName
  rw [h, Option.filter_some]
  by_cases hempty : key = ""
  · rw [if_pos hempty, if_neg (by simpa using hempty)]
    rfl
  · rw [if_neg hempty, if_pos (by simpa using hempty)]
    rfl

namespace Script

-- ============================================================ staying away

/-- Whether the operation stays away from the running workflow: it gives no
input, not even by a session, is no reset, and brings no program but one that
`keepsToContext`. -/
def Operation.staysAway : Operation → Bool
  | .handle .. | .process _ | .reset => false
  | operation => operation.brings.all Program.keepsToContext

theorem Operation.brings_of_staysAway {op : Operation}
    (h : op.staysAway = true) : ∀ p ∈ op.brings, p.keepsToContext = true := by
  cases op with
  | registerHandler name program => exact List.all_eq_true.1 h
  | _ => exact nofun

/-- Every operation that a listener runs is one that `staysAway`. -/
def Stage.LeftAlone (s : Stage) : Prop :=
  s.Reacts fun op => op.staysAway = true

/-- A run that is `Backstage` brings no other listeners. -/
theorem Backstage.leftAlone {α : Type} {new : List Program} {m : Run α}
    (hm : Backstage new m) {s : Stage} (hs : s.LeftAlone) :
    (m s).2.LeftAlone := by
  unfold Stage.LeftAlone Stage.Reacts
  rw [show (m s).2.listeners = s.listeners from
    congrArg Audience.listeners (hm.frame s)]
  exact hs

/-- From `s` to `t` the `place` is the same; listeners still leave it alone,
and programs keep to their contexts if they did. -/
structure Rests (s t : Stage) : Prop where
  leftAlone : t.LeftAlone
  keeps : s.KeepsToContexts → t.KeepsToContexts
  place : t.place = s.place

theorem Rests.refl {s : Stage} (hs : s.LeftAlone) : Rests s s :=
  ⟨hs, id, rfl⟩

theorem rests_carries : Carries Rests fun op => op.staysAway = true where
  trans h h' := ⟨h'.leftAlone, h'.keeps ∘ h.keeps, h'.place.trans h.place⟩
  good h := .refl h.leftAlone
  reacts h := h.leftAlone
  aside _ hreacts halone _ := ⟨hreacts, fun hkeeps => hkeeps.congr halone,
    congrArg Engine.place (Stage.engine_eq_of_alone halone).symm⟩

section Within

variable {inner : Operation → Run Reply}
  (hinner : ∀ op s, op.staysAway = true → Rests s s → Rests s (inner op s).2)
include hinner

/-- While listeners that leave it alone are told of an action, the engine
`Rests`. -/
theorem dispatch_rests (action : Action) (stray : Option Stray) {s : Stage}
    (hs : s.LeftAlone) : Rests s (dispatch inner action stray s).2 :=
  (dispatch_carries rests_carries hinner action stray (.refl hs)).2

/-- By an operation that `staysAway`, the engine `Rests`. -/
theorem perform_rests {op : Operation} (hop : op.staysAway = true) {s : Stage}
    (hs : s.LeftAlone) : Rests s (perform inner op s).2 := by
  cases hsub : op.isSubscription with
  | true =>
      obtain ⟨m, hm⟩ := perform_subscription inner op hsub s
      rw [hm]
      exact ⟨hs, id, rfl⟩
  | false =>
      have hquiet : op.isOwn = true → op.isTold = false →
          op.isReset = false → Rests s (perform inner op s).2 := by
        intro hown htold hreset
        rw [perform_eq_deaf inner hown htold]
        have hback := perform_backstage hown hsub htold
        have hnumbers := perform_leaves_numbers hown hsub htold hreset s
        exact ⟨hback.leftAlone hs,
          hback.keeps (Operation.brings_of_staysAway hop),
          Engine.place_eq_of_active (congrArg Prod.fst hnumbers)⟩
      cases op with
      | handle text intent => cases hop
      | process text => cases hop
      | reset => cases hop
      | announce message =>
          have hdemand : Rests s (demand (some message) s).2 := by
            rcases demand_cases (some message) s with h | ⟨-, -, fault, h⟩
            · rw [h]
              exact .refl hs
            · rw [h]
              exact .refl hs
          refine bind_carries rests_carries hdemand fun _ t _ ht => ?_
          rw [get_bind_apply]
          exact bind_carries rests_carries
            (dispatch_rests hinner _ none ht.leftAlone) fun _ u _ hu => hu
      | emit action =>
          exact bind_carries rests_carries
            (dispatch_rests hinner action none hs) fun _ t _ ht => ht
      | ask query =>
          have hstage : (perform inner (.ask query) s).2 = s := by
            show ((liftExcept (answer s query) : Run Reply) s).2 = s
            cases answer s query <;> rfl
          rw [hstage]
          exact .refl hs
      | _ => exact hquiet rfl rfl rfl

end Within

theorem within_rests (depth : Nat) :
    ∀ (op : Operation) (s : Stage), op.staysAway = true → Rests s s →
      Rests s (within depth op s).2 := by
  induction depth with
  | zero => exact fun _ _ _ hs => hs
  | succ depth ih =>
      intro op s hop hs
      show Rests s (runWithin depth op s).2
      rw [runWithin_eq]
      have hperform := perform_rests (s := s.afresh) ih hop hs.leftAlone
      exact ⟨hperform.leftAlone, hperform.keeps, hperform.place⟩

/-- The same for `run`. -/
theorem run_rests (op : Operation) (s : Stage) (hop : op.staysAway = true)
    (hs : Rests s s) : Rests s (run op s).2 :=
  within_rests (s.budget + op.weight + 1) op s hop hs

-- ================================================================= inputs

/-- The action that an input settles on names the `place` of the engine then.
-/
theorem settle_names {text intent : String} {s t : Stage} {reply : Reply}
    {news : List News}
    (h : settle (.handle text intent) s = (.ok (reply, news), t)) :
    (∀ workflow key message stray,
      reply = .outcome (.done (.enterState workflow key message)) stray →
      t.place = some (workflow, some key))
    ∧ ∀ workflow name stray,
      reply = .outcome (.done (.inputCaptured workflow name)) stray →
      ∃ key state, s.place = some (workflow, some key)
        ∧ s.engine.active.bind s.engine.state? = some state
        ∧ t.place = some (workflow, some key)
        ∧ name = if key = "" then state.id else key := by
  simp only [settle] at h
  rw [get_bind_apply] at h
  rcases carryOut_cases (s.engine.plan text intent) s
    with ⟨-, -, fault, u, hcarry, -⟩ | ⟨stray, u, hcarry, hu⟩
  · rw [bind_of_error hcarry] at h
    cases h
  rw [bind_of_ok hcarry] at h
  cases hstep : (s.engine.plan text intent).carryOut.step with
  | failed fault =>
      rw [hstep] at h
      cases h
  | settled outcome =>
      rw [hstep] at h
      cases h
      constructor
      · rintro workflow key message stray' hreply
        cases hreply
        obtain ⟨b, template, hcourse, -⟩ := Engine.Plan.course_of_enter hstep
        have hengine : t.engine = (s.engine.plan text intent).engine := by
          rw [hu]
          unfold Engine.Plan.carryOut
          rw [hcourse]
        unfold Stage.place
        rw [hengine]
        exact Engine.plan_arrive_place hcourse
      · rintro workflow name stray' hreply
        cases hreply
        exact absurd hstep (Engine.Plan.step_ne_captured _ _ _)
  | capture hook b state =>
      rw [hstep] at h
      obtain ⟨hcourse, hengine⟩ := Engine.Plan.course_of_capture hstep
      obtain ⟨a, hactive, hstate, rfl, -⟩ := Engine.plan_capture hcourse
      obtain ⟨key, hkey⟩ := Engine.key_of_state? hstate
      have hplace : s.place = some (a.workflow, some key) := by
        unfold Stage.place Engine.place
        rw [hactive, ← hkey]
        rfl
      have hu : u.place = some (a.workflow, some key) := by
        unfold Stage.place
        rw [hu, hengine, Engine.plan_capture_place hcourse]
        exact hplace
      have htouched := (touch_leaves_place text a.counted hook u).trans hu
      rcases htouch : touch text a.counted hook u with ⟨fault | done, v⟩
      · dsimp only at h
        rw [bind_of_error htouch] at h
        cases h
      rw [htouch] at htouched
      dsimp only at h
      rw [bind_of_ok htouch, get_bind_apply] at h
      -- the action is made of what is active after the handler
      obtain ⟨b, hb, hsame⟩ := Option.map_eq_some_iff.1 htouched
      obtain ⟨hworkflow, hkey'⟩ := Prod.mk.inj hsame
      unfold Engine.captured at h
      rw [hb] at h
      cases h
      constructor
      · rintro workflow key message stray' hreply
        cases hreply
      · rintro workflow name stray' hreply
        cases hreply
        refine ⟨key, state, ?_, ?_, ?_, b.stateName_eq hkey' state⟩
        · rw [hworkflow]
          exact hplace
        · rw [hactive]
          exact hstate
        · rw [hworkflow]
          exact htouched

-- =================================================================== runs

/-- Programs keep to their contexts, and the stage is `LeftAlone`. -/
structure Stage.Undisturbed (s : Stage) : Prop where
  keeps : s.KeepsToContexts
  leftAlone : s.LeftAlone

/-- On an `Undisturbed` stage, an input comes to what it settles, and the
engine `Rests` while listeners are told. -/
theorem perform_handle_rests (text intent : String) {s : Stage}
    (hs : s.Undisturbed) :
    (perform run (.handle text intent) s).1
        = (settle (.handle text intent) s).1.map Prod.fst
      ∧ Rests (settle (.handle text intent) s).2
        (perform run (.handle text intent) s).2
      ∧ (perform run (.handle text intent) s).2.Undisturbed := by
  have hdirect : (Operation.handle text intent).isDirect = true := rfl
  have hback := settle_backstage hdirect rfl
  have htells := fun news => tell_carries rests_carries run_rests news
    (.refl (hback.leftAlone hs.leftAlone))
  obtain ⟨hresult, htell⟩ := perform_settles run hdirect hs.keeps
    fun news => (htells news).1
  have hrests := (htells (newsOf (.handle text intent) s)).2
  rw [htell] at hrests
  exact ⟨hresult, hrests, hrests.keeps (hback.keeps nofun hs.keeps),
    hrests.leftAlone⟩

/-- On an `Undisturbed` stage, reactions that stay away leave it so. -/
theorem undisturbed_carries :
    Carries (fun _ t => t.Undisturbed) fun op => op.staysAway = true where
  trans _ h' := h'
  good h := h
  reacts h := h.leftAlone
  aside h hreacts halone _ := ⟨h.keeps.congr halone, hreacts⟩

/-- On an `Undisturbed` stage, an operation whose programs keep to their
contexts leaves it so. -/
theorem run_undisturbed {op : Operation}
    (hop : ∀ p ∈ op.brings, p.keepsToContext = true) {s : Stage}
    (hs : s.Undisturbed) : (run op s).2.Undisturbed := by
  have hhandle : ∀ text intent (t : Stage), t.Undisturbed →
      (handle run text intent t).2.Undisturbed := by
    intro text intent t ht
    have hsame : (perform run (.handle text intent) t).2
        = (handle run text intent t).2 := bind_stage (fun _ _ => rfl) t
    rw [← hsame]
    exact (perform_handle_rests text intent ht).2.2
  have hblank : s.afresh.Undisturbed := ⟨hs.keeps, hs.leftAlone⟩
  have hperform : (perform run op s.afresh).2.Undisturbed := by
    cases haway : op.staysAway with
    | true =>
        have hrests := perform_rests run_rests haway hblank.leftAlone
        exact ⟨hrests.keeps hblank.keeps, hrests.leftAlone⟩
    | false =>
        cases op with
        | handle text intent =>
            exact (perform_handle_rests text intent hblank).2.2
        | process text =>
            show (process run text s.afresh).2.Undisturbed
            unfold process
            refine bind_carries undisturbed_carries
              ⟨hblank.keeps, hblank.leftAlone⟩ fun _ t _ ht => ?_
            rw [get_bind_apply]
            cases Session.route t.engine text with
            | blank => exact ht
            | content text =>
                exact bind_carries undisturbed_carries
                  (hhandle text _ t ht) fun _ u _ hu => hu
            | classify text =>
                refine bind_carries undisturbed_carries
                  (show (classify text t).2.Undisturbed from
                    ⟨ht.keeps, ht.leftAlone⟩) fun c u _ hu => ?_
                exact bind_carries undisturbed_carries
                  (hhandle text c.intent u hu)
                  fun _ v _ hv => ⟨hv.keeps, hv.leftAlone⟩
        | reset => exact ⟨hblank.keeps, hblank.leftAlone⟩
        | registerHandler name program =>
            exact absurd (List.all_eq_true.2 hop) (Bool.eq_false_iff.1 haway)
        | _ => cases haway
  have hafresh : (run op s).2.afresh.Undisturbed := by
    rw [run_afresh]
    exact ⟨hperform.keeps, hperform.leftAlone⟩
  exact ⟨hafresh.keeps, hafresh.leftAlone⟩

/-- What the action of an input names is where the engine is when the input
returns. A state that was entered is the active one. An input that was captured
leaves the engine where it was, and the action names the workflow and the key
of the active state; but where that key is empty it carries the id of the
state. -/
structure Stage.NamesPlace (s : Stage) (text intent : String) : Prop where
  entered : ∀ workflow key message stray,
    (run (.handle text intent) s).1
      = .ok (.outcome (.done (.enterState workflow key message)) stray) →
    (run (.handle text intent) s).2.engine.workflow? = some workflow
      ∧ (run (.handle text intent) s).2.engine.stateKey? = some key
  captured : ∀ workflow name stray,
    (run (.handle text intent) s).1
      = .ok (.outcome (.done (.inputCaptured workflow name)) stray) →
    ∃ key state, s.engine.workflow? = some workflow
      ∧ s.engine.stateKey? = some key
      ∧ s.engine.active.bind s.engine.state? = some state
      ∧ (run (.handle text intent) s).2.engine.workflow? = some workflow
      ∧ (run (.handle text intent) s).2.engine.stateKey? = some key
      ∧ name = if key = "" then state.id else key

/-- On an `Undisturbed` stage, the action of every input names the place. -/
theorem Stage.Undisturbed.namesPlace {s : Stage} (hs : s.Undisturbed)
    (text intent : String) : s.NamesPlace text intent := by
  have hblank : s.afresh.Undisturbed := ⟨hs.keeps, hs.leftAlone⟩
  obtain ⟨hresult, hrests, -⟩ := perform_handle_rests text intent hblank
  rw [← run_result] at hresult
  have hplace : (run (.handle text intent) s).2.place
      = (settle (.handle text intent) s.afresh).2.place :=
    (run_part Stage.place (fun _ => rfl) _ s).trans hrests.place
  rcases hsettle : settle (.handle text intent) s.afresh
    with ⟨fault | ⟨reply, news⟩, t⟩
  · rw [hsettle] at hresult
    constructor
    · intro workflow key message stray h
      cases hresult.symm.trans h
    · intro workflow name stray h
      cases hresult.symm.trans h
  rw [hsettle] at hresult hplace
  obtain ⟨hentered, hcaptured⟩ := settle_names hsettle
  constructor
  · intro workflow key message stray h
    cases hresult.symm.trans h
    exact Engine.workflow?_of_place
      (hplace.trans (hentered workflow key message stray rfl))
  · intro workflow name stray h
    cases hresult.symm.trans h
    obtain ⟨key, state, hbefore, hstate, hafter, hname⟩ :=
      hcaptured workflow name stray rfl
    obtain ⟨hworkflow, hkey⟩ := Engine.workflow?_of_place hbefore
    obtain ⟨hworkflow', hkey'⟩ :=
      Engine.workflow?_of_place (hplace.trans hafter)
    exact ⟨key, state, hworkflow, hkey, hstate, hworkflow', hkey', hname⟩

/-- Along any run, whatever was registered and whoever listens, every input
`NamesPlace`. Handlers keep to their contexts, those included that operations
bring, and listeners stay away from the running workflow. -/
theorem runAll_namesPlace (ops : List Operation) {s : Stage}
    (hs : s.Undisturbed)
    (hops : ∀ op ∈ ops, ∀ p ∈ op.brings, p.keepsToContext = true) :
    ∀ before text intent after,
      ops = before ++ .handle text intent :: after →
      (runAll before s).2.NamesPlace text intent := by
  have hrun : ∀ (before : List Operation) {s : Stage}, s.Undisturbed →
      (∀ op ∈ before, ∀ p ∈ op.brings, p.keepsToContext = true) →
      (runAll before s).2.Undisturbed := by
    intro before
    induction before with
    | nil => exact fun hs _ => hs
    | cons op rest ih =>
        intro s hs hops
        exact ih (run_undisturbed (hops op (List.mem_cons_self ..)) hs)
          fun op' h => hops op' (List.mem_cons_of_mem _ h)
  rintro before text intent after rfl
  have hbefore := hrun before hs fun op h =>
    hops op (List.mem_append_left _ h)
  exact hbefore.namesPlace text intent

/-- A workflow whose states stand under other keys than their ids, the first
one under an empty key. -/
def anonymous : Definition where
  id := "anonymous"
  trigger := "start"
  initial := ""
  states := .ofList [
    ("", {
      id := "x"
      onEnter := "Who?"
      transitions := .ofList [("go", { kind := .goto, state := some "b" })]
      handler := some "accumulate" }),
    ("b", { id := "y", onEnter := "So.", handler := some "accumulate" })]

/-- A stage with nothing registered, and a listener that announces what it
hears of captured inputs. -/
def reception : Stage where
  engine := { handlers := .ofList [("accumulate", .plain .accumulate)] }
  emitter := ({} : Emitter).subscribe .inputCaptured "porter"
  listeners := .ofList [("porter",
    { reactions := [.operate (.announce "Taken."), .fail "no"] })]
  disk := { find := fun _ => .ok .device }

/-- There inputs are captured in both states, and the second one carries the
key of its state. -/
theorem runAll_namesPlace_reception :
    let ops : List Operation := [.registerDefinition anonymous,
      .handle "" "start", .handle "one" "", .handle "" "go", .handle "two" ""]
    (runAll ops reception).1.map (·.toOption.bind Reply.captured?)
        = [none, none, some ("anonymous", "x"), none,
          some ("anonymous", "b")]
      ∧ ∀ before text intent after,
        ops = before ++ .handle text intent :: after →
        (runAll before reception).2.NamesPlace text intent := by
  intro ops
  have hreacts : ∀ l ∈ reception.listeners.values, ∀ r ∈ l.reactions,
      ∀ op ∈ r.runs, op.staysAway = true := by decide +kernel
  have hops : ∀ op ∈ ops, ∀ p ∈ op.brings, p.keepsToContext = true := by
    decide +kernel
  exact ⟨by decide +kernel, runAll_namesPlace ops ⟨nofun, hreacts⟩ hops⟩

/-- Under an empty key a captured input does not carry the key of the active
state, though the engine says what that is. -/
theorem empty_key_misnamed :
    let s := (runAll [.registerDefinition anonymous, .handle "" "start"]
      reception).2
    (run (.handle "one" "") s).1.toOption.bind Reply.captured?
        = some ("anonymous", "x")
      ∧ (run (.handle "one" "") s).2.engine.workflow? = some "anonymous"
      ∧ (run (.handle "one" "") s).2.engine.stateKey? = some "" := by
  decide +kernel

end Script
end Colloquy
