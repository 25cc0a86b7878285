/-
Operations in lockstep. Each operation, run on two stages that are alike,
comes to what is alike and leaves stages that are alike
(`perform_abreast`). From this, by induction on how deep operations nest,
the same holds of runs (`run_abreast`, `runAll_abreast`). Nothing is asked of
what listeners and handlers do, as long as they run fair operations.

A text is either content or it is classified, and the two sides may disagree
on it (`routed_abreast`). The replies then differ in what is said of the
text, and in nothing else.
-/
import Colloquy.Proofs.Script.Abreast

namespace Colloquy

namespace Script

variable {c : Regime} {s s' : Stage}

-- ================================================================== plans

theorem Course.template?_pruned (keep : String → Bool)
    (course : Engine.Course Hook) :
    (course.pruned keep).template? = course.template? := by
  cases course with
  | _ => rfl

theorem rememberEnding_abreast {x y : Engine.Course Hook}
    (hxy : x.pruned c.keep = y.pruned c.keep) (h : s.Alike c s') :
    Abreast c Eq (rememberEnding x) (rememberEnding y) s s' := by
  have hpruned : ∀ course : Engine.Course Hook,
      rememberEnding course = rememberEnding (course.pruned c.keep) := by
    intro course
    cases course with
    | _ => rfl
  rw [hpruned x, hpruned y, hxy]
  cases y.pruned c.keep with
  | leave a template =>
      refine .get ?_
      refine Abreast.bind_eq (.modify (remember_alike h)) fun _ t t' ht => ?_
      exact .pure h.stray? ht
  | _ => exact .pure rfl h

/-- For plans that are equal once `pruned`, `carryOut` is `Abreast`. -/
theorem carryOut_abreast {p p' : Engine.Plan Hook}
    (hp : p.pruned c.keep = p'.pruned c.keep)
    (hkeeps : p.engine.Keeps c.keep) (h : s.Alike c s') :
    Abreast c (fun x y => x.1.Alike c.keep y.1 ∧ x.2 = y.2)
      (carryOut p) (carryOut p') s s' := by
  have hengine : p.engine.pruned c.keep = p'.engine.pruned c.keep := by
    have := congrArg Engine.Plan.engine hp
    exact this
  have hcourse : p.course.pruned c.keep = p'.course.pruned c.keep := by
    have := congrArg Engine.Plan.course hp
    exact this
  have htemplate : p.course.template? = p'.course.template? := by
    rw [← Course.template?_pruned c.keep, hcourse,
      Course.template?_pruned c.keep]
  obtain ⟨hengine₁, hstep₁⟩ := p.carryOut_pruned c.keep
  obtain ⟨hengine₂, hstep₂⟩ := p'.carryOut_pruned c.keep
  refine (setEngine_abreast hengine hkeeps h).bind_eq fun _ t t' ht => ?_
  refine (note_abreast _ _ ht).bind_eq fun _ t t' ht => ?_
  rw [htemplate]
  refine (demand_abreast _ ht).bind_eq fun _ t t' ht => ?_
  refine (rememberEnding_abreast hcourse ht).bind_eq fun stray t t' ht => ?_
  refine Abreast.bind_eq (setEngine_abreast ?_ ?_ ht) fun _ t t' ht => ?_
  · show p.bare.carryOut.engine.pruned c.keep
      = p'.bare.carryOut.engine.pruned c.keep
    rw [← hengine₁, ← hengine₂, hp]
  · intro name hname
    have hhandlers : p.bare.carryOut.engine.handlers = p.engine.handlers :=
      p.bare.carryOut_handlers
    rw [show ({ p with entries := [] } : Engine.Plan Hook) = p.bare from rfl,
      hhandlers] at hname
    exact hkeeps name hname
  · refine (note_abreast _ _ ht).bind_eq fun _ t t' ht => ?_
    refine .pure ⟨.of_pruned ?_, rfl⟩ ht
    show p.bare.carryOut.step.pruned c.keep
      = p'.bare.carryOut.step.pruned c.keep
    rw [← hstep₁, ← hstep₂, hp]

/-- On stages that are `Alike`, `captured` gives the same action. -/
theorem captured_eq (h : s.Alike c s') {x y : State}
    (hxy : x.pruned c.keep = y.pruned c.keep) :
    s.engine.captured x = s'.engine.captured y := by
  have hid : x.id = y.id := by
    have := congrArg State.id hxy
    exact this
  unfold Engine.captured
  rw [h.active, hid]

-- ============================================================= operations

section Within

variable {inner inner' : Operation → Run Reply}
  (hinner : ∀ op s s', c.fair op → s.Alike c s' →
    Abreast c (Reply.Alike c.keep) (inner op) (inner' op) s s')
include hinner

/-- For inputs whose plans are equal once `pruned`, `handle` is `Abreast`. -/
theorem handle_abreast {text intent intent' : String}
    (hplan : (s.engine.plan text intent).pruned c.keep
      = (s'.engine.plan text intent').pruned c.keep) (h : s.Alike c s') :
    Abreast c Eq (handle inner text intent) (handle inner' text intent')
      s s' := by
  have hkeeps : (s.engine.plan text intent).engine.Keeps c.keep := by
    intro name hname
    rw [s.engine.plan_handlers] at hname
    exact h.keeps name hname
  refine .get ?_
  refine (carryOut_abreast hplan hkeeps h).bind fun x y t t' hxy ht => ?_
  obtain ⟨step, stray⟩ := x
  obtain ⟨step', stray'⟩ := y
  obtain ⟨hstep, hstray⟩ := hxy
  dsimp only at hstep hstray
  subst hstray
  cases hstep with
  | settled outcome =>
      refine Abreast.bind_eq (.forM (fun action =>
        dispatch_abreast hinner action stray) _ t t' ht) fun _ t t' ht => ?_
      exact .pure rfl ht
  | failed fault => exact .throw _ ht
  | capture hook a hstate =>
      refine (runHook_abreast hinner text a hook t t' ht).bind_eq
        fun _ u u' hu => .get ?_
      rw [captured_eq hu hstate]
      cases u'.engine.captured _ with
      | error fault => exact .throw _ hu
      | ok action =>
          exact (dispatch_abreast hinner action none u u' hu).bind_eq
            fun _ v v' hv => .pure rfl hv

/-- For the same input on both sides, `handle` is `Abreast`. -/
theorem handle_abreast_same (text intent : String) (h : s.Alike c s') :
    Abreast c Eq (handle inner text intent) (handle inner' text intent)
      s s' :=
  handle_abreast hinner (Engine.plan_alike h.engine h.keeps text intent) h

end Within

-- ================================================================= texts

/-- The text is handled as content, without an intent. -/
def takeContent (inner : Operation → Run Reply) (text : String) :
    Run Reply := do
  let (outcome, stray) ← handle inner text Session.unknownIntent
  return .turn (.ofContent text outcome) stray (← get).calls

/-- The text is handled with the classification `said`. -/
def takeSaid (inner : Operation → Run Reply) (text : String)
    (said : Classification) : Run Reply := do
  let (outcome, stray) ← handle inner text said.intent
  note (Session.outcomeEntries said outcome)
  return .turn (.ofClassified text said outcome) stray (← get).calls

/-- The text is classified and then handled (`takeSaid`). -/
def takeClassified (inner : Operation → Run Reply) (text : String) :
    Run Reply := do takeSaid inner text (← classify text)

/-- The text is handled in the way that `Session.route` found for it. -/
def takeRouted (inner : Operation → Run Reply) : Session.Routing → Run Reply
  | .blank => return .nothing
  | .content text => takeContent inner text
  | .classify text => takeClassified inner text

theorem process_eq (inner : Operation → Run Reply) (text : String) :
    process inner text = (do
      modify fun s => { s with calls := [] }
      takeRouted inner (Session.route (← get).engine text)) := by
  unfold process
  refine congrArg _ (funext fun _ => congrArg _ (funext fun s => ?_))
  cases Session.route s.engine text with
  | _ => rfl

/-- The stage with one more text in its `calls`. -/
def Stage.asked (s : Stage) (text : String) : Stage :=
  { s with calls := s.calls ++ [text] }

theorem takeClassified_apply (inner : Operation → Run Reply) (text : String)
    (s : Stage) :
    takeClassified inner text s
      = takeSaid inner text (s.classifier.classify text) (s.asked text) := rfl

/-- Sequencing after `modify` and `get`. -/
theorem modify_get_apply {α : Type} (f : Stage → Stage) (k : Stage → Run α)
    (s : Stage) : (do modify f; k (← get) : Run α) s = k (f s) (f s) := rfl

/-- The stage with no text in its `calls`. -/
def Stage.cleared (s : Stage) : Stage := { s with calls := [] }

/-- The cases of `process`: the text is blank and comes to nothing; or the
engine is capturing and it is content; or it is classified. -/
theorem process_cases (inner : Operation → Run Reply) (text : String)
    (s : Stage) :
    ((Text.trim text).isEmpty = true
        ∧ process inner text s = (.ok .nothing, s.cleared))
      ∨ ((Text.trim text).isEmpty = false ∧ s.engine.isCapturing = true
        ∧ process inner text s = takeContent inner (Text.trim text) s.cleared)
      ∨ ((Text.trim text).isEmpty = false ∧ s.engine.isCapturing = false
        ∧ process inner text s
          = takeSaid inner (Text.trim text)
            (s.classifier.classify (Text.trim text))
            (s.cleared.asked (Text.trim text))) := by
  have hprocess : process inner text s
      = takeRouted inner (Session.route s.engine text) s.cleared := by
    rw [process_eq]
    exact modify_get_apply _ (fun t => takeRouted inner
      (Session.route t.engine text)) s
  rw [hprocess]
  unfold Session.route
  by_cases hblank : (Text.trim text).isEmpty = true
  · rw [if_pos hblank]
    exact .inl ⟨hblank, rfl⟩
  rw [if_neg hblank]
  by_cases hcapture : s.engine.isCapturing = true
  · rw [if_pos hcapture]
    exact .inr (.inl ⟨Bool.eq_false_iff.2 hblank, hcapture, rfl⟩)
  · rw [if_neg hcapture]
    exact .inr (.inr ⟨Bool.eq_false_iff.2 hblank,
      Bool.eq_false_iff.2 hcapture, rfl⟩)

/-- Stages are `Alike` whatever was classified. -/
theorem Stage.Alike.asked_left (h : s.Alike c s') (text : String) :
    (s.asked text).Alike c s' :=
  ⟨h.outline, h.events, h.keeps, h.reacts, h.operates⟩

theorem Stage.Alike.asked_right (h : s.Alike c s') (text : String) :
    s.Alike c (s'.asked text) :=
  ⟨h.outline, h.events, h.keeps, h.reacts, h.operates⟩

section Texts

variable {inner inner' : Operation → Run Reply}
  (hinner : ∀ op s s', c.fair op → s.Alike c s' →
    Abreast c (Reply.Alike c.keep) (inner op) (inner' op) s s')

/-- Reporting turns that differ at most in what was said of the text is
`Abreast`. -/
theorem report_abreast (t t' : Session.Turn) (stray : Option Stray)
    (htext : t.text = t'.text) (houtcome : t.outcome = t'.outcome)
    (hbypassed : t.bypassed = t'.bypassed → t = t') (h : s.Alike c s') :
    Abreast c (Reply.Alike c.keep)
      (do return .turn t stray (← get).calls)
      (do return .turn t' stray (← get).calls) s s' :=
  .get (.pure (.turn stray _ _ htext houtcome hbypassed) h)

include hinner

theorem takeContent_abreast (text : String) (h : s.Alike c s') :
    Abreast c (Reply.Alike c.keep) (takeContent inner text)
      (takeContent inner' text) s s' := by
  refine (handle_abreast_same hinner text _ h).bind_eq fun r t t' ht => ?_
  obtain ⟨outcome, stray⟩ := r
  exact report_abreast _ _ stray rfl rfl (fun _ => rfl) ht

theorem takeSaid_abreast (text : String) (said : Classification)
    (h : s.Alike c s') :
    Abreast c (Reply.Alike c.keep) (takeSaid inner text said)
      (takeSaid inner' text said) s s' := by
  refine (handle_abreast_same hinner text _ h).bind_eq fun r t t' ht => ?_
  obtain ⟨outcome, stray⟩ := r
  refine (note_abreast _ _ ht).bind_eq fun _ u u' hu => ?_
  exact report_abreast _ _ stray rfl rfl (fun _ => rfl) hu

theorem takeClassified_abreast (text : String) (h : s.Alike c s') :
    Abreast c (Reply.Alike c.keep) (takeClassified inner text)
      (takeClassified inner' text) s s' := by
  have htake := takeSaid_abreast hinner text (s.classifier.classify text)
    ((h.asked_left text).asked_right text)
  constructor
  · rw [takeClassified_apply, takeClassified_apply, ← h.classifier]
    exact htake.outcome
  · rw [takeClassified_apply, takeClassified_apply, ← h.classifier]
    exact htake.stage

/-- If the left engine is capturing, `takeContent` and `takeSaid` are
`Abreast`. -/
theorem takeContent_takeSaid_abreast (text : String) (said : Classification)
    (hcapture : s.engine.isCapturing = true) (h : s.Alike c s') :
    Abreast c (Reply.Alike c.keep) (takeContent inner text)
      (takeSaid inner' text said) s s' := by
  have hplan := Engine.plan_alike_of_isCapturing h.engine h.keeps
    (.inl hcapture) text Session.unknownIntent said.intent
  refine (handle_abreast hinner hplan h).bind_eq fun r t t' ht => ?_
  obtain ⟨outcome, stray⟩ := r
  have hreport := report_abreast (.ofContent text outcome)
    (.ofClassified text said outcome) stray rfl rfl nofun
    (show t.Alike c { t' with
        entries := t'.entries ++ Session.outcomeEntries said outcome } from
      ⟨ht.outline, ht.events, ht.keeps, ht.reacts, ht.operates⟩)
  exact ⟨hreport.outcome, hreport.stage⟩

/-- If the right engine is capturing, `takeSaid` and `takeContent` are
`Abreast`. -/
theorem takeSaid_takeContent_abreast (text : String) (said : Classification)
    (hcapture : s'.engine.isCapturing = true) (h : s.Alike c s') :
    Abreast c (Reply.Alike c.keep) (takeSaid inner text said)
      (takeContent inner' text) s s' := by
  have hplan := Engine.plan_alike_of_isCapturing h.engine h.keeps
    (.inr hcapture) text said.intent Session.unknownIntent
  refine (handle_abreast hinner hplan h).bind_eq fun r t t' ht => ?_
  obtain ⟨outcome, stray⟩ := r
  have hreport := report_abreast (.ofClassified text said outcome)
    (.ofContent text outcome) stray rfl rfl nofun
    (show Stage.Alike c { t with
        entries := t.entries ++ Session.outcomeEntries said outcome } t' from
      ⟨ht.outline, ht.events, ht.keeps, ht.reacts, ht.operates⟩)
  exact ⟨hreport.outcome, hreport.stage⟩

/-- Taking a text in the way that each engine routes it is `Abreast`. -/
theorem takeRouted_abreast (text : String) (h : s.Alike c s') :
    Abreast c (Reply.Alike c.keep)
      (takeRouted inner (Session.route s.engine text))
      (takeRouted inner' (Session.route s'.engine text)) s s' := by
  unfold Session.route
  by_cases hblank : (Text.trim text).isEmpty = true
  · simp only [if_pos hblank]
    exact .pure (.same _) h
  simp only [if_neg hblank]
  by_cases hleft : s.engine.isCapturing = true
  · by_cases hright : s'.engine.isCapturing = true
    · rw [if_pos hleft, if_pos hright]
      exact takeContent_abreast hinner _ h
    · rw [if_pos hleft, if_neg hright]
      have htake := takeContent_takeSaid_abreast hinner (Text.trim text)
        (s'.classifier.classify (Text.trim text)) hleft
        (h.asked_right (Text.trim text))
      exact ⟨htake.outcome, htake.stage⟩
  · by_cases hright : s'.engine.isCapturing = true
    · rw [if_neg hleft, if_pos hright]
      have htake := takeSaid_takeContent_abreast hinner (Text.trim text)
        (s.classifier.classify (Text.trim text)) hright
        (h.asked_left (Text.trim text))
      exact ⟨htake.outcome, htake.stage⟩
    · rw [if_neg hleft, if_neg hright]
      exact takeClassified_abreast hinner _ h

theorem process_abreast (text : String) (h : s.Alike c s') :
    Abreast c (Reply.Alike c.keep) (process inner text) (process inner' text)
      s s' := by
  rw [process_eq, process_eq]
  refine Abreast.bind_eq (.modify ⟨h.outline, h.events, h.keeps, h.reacts,
    h.operates⟩) fun _ t t' ht => .get ?_
  exact takeRouted_abreast hinner text ht

end Texts

-- ============================================================== registry

/-- Registering the same definitions on both sides is `Abreast`. -/
theorem takeLoaded_abreast (found : Except LoadFault (List Definition))
    (h : s.Alike c s') :
    Abreast c Eq (takeLoaded (found.map s.engine.registry.take))
      (takeLoaded (found.map s'.engine.registry.take)) s s' := by
  cases found with
  | error fault => exact .throw _ h
  | ok ds =>
      refine .get ?_
      refine Abreast.bind_eq (.modify (h.withRegistry ?_)) fun _ t t' ht => ?_
      · show (s.engine.registry.registerAll ds).pruned c.keep
          = (s'.engine.registry.registerAll ds).pruned c.keep
        rw [Registry.pruned_registerAll, Registry.pruned_registerAll,
          h.registry]
      · refine (note_abreast _ _ ht).bind_eq fun _ u u' hu => ?_
        exact .pure rfl hu

theorem loadBatch_eq (r : Registry) (text : List Char) :
    (r.loadBatch text).mapError LoadFault.batch
      = ((Batch.read text).mapError LoadFault.batch).map r.take := by
  unfold Registry.loadBatch
  cases Batch.read text <;> rfl

theorem loadFile_eq (r : Registry) (disk : Disk) (path : Path) :
    r.loadFile disk path
      = (((disk.readText path).mapError LoadFault.unread).bind fun text =>
          (Batch.read text).mapError LoadFault.batch).map r.take := by
  unfold Registry.loadFile
  cases disk.readText path with
  | error fault => rfl
  | ok text => exact loadBatch_eq r text

theorem loadBatch_abreast (text : String) (h : s.Alike c s') :
    Abreast c Eq (loadBatch text) (loadBatch text) s s' := by
  refine .get ?_
  rw [loadBatch_eq, loadBatch_eq]
  exact takeLoaded_abreast _ h

theorem Handle.cases_of_pruned_eq {keep : String → Bool} {x y : Handle}
    (h : x.pruned keep = y.pruned keep) :
    (x = .none ∧ y = .none) ∨ (x = .shared ∧ y = .shared)
      ∨ ∃ r r', x = .apart r ∧ y = .apart r'
        ∧ r.pruned keep = r'.pruned keep := by
  cases x with
  | none =>
      cases y with
      | none => exact .inl ⟨rfl, rfl⟩
      | _ => cases h
  | shared =>
      cases y with
      | shared => exact .inr (.inl ⟨rfl, rfl⟩)
      | _ => cases h
  | apart r =>
      cases y with
      | apart r' =>
          injection h with hr
          exact .inr (.inr ⟨r, r', rfl, rfl, hr⟩)
      | _ => cases h

theorem loadApart_abreast (text : String) (h : s.Alike c s') :
    Abreast c Eq (loadApart text) (loadApart text) s s' := by
  refine .get ?_
  obtain ⟨hx, hx'⟩ | ⟨hx, hx'⟩ | ⟨r, r', hx, hx', hr⟩ :=
    Handle.cases_of_pruned_eq h.handle
  · rw [hx, hx']
    exact .throw _ h
  · rw [hx, hx']
    exact loadBatch_abreast text h
  · rw [hx, hx']
    dsimp only
    unfold Registry.loadBatch
    cases Batch.read text.toList with
    | error fault => exact .throw _ h
    | ok ds =>
        refine Abreast.bind_eq (.modify (h.withHandle ?_))
          fun _ t t' ht => ?_
        · show Handle.apart ((r.registerAll ds).pruned c.keep)
            = .apart ((r'.registerAll ds).pruned c.keep)
          rw [Registry.pruned_registerAll, Registry.pruned_registerAll, hr]
        · refine (note_abreast _ _ ht).bind_eq fun _ u u' hu => ?_
          exact .pure rfl hu

theorem swapRegistry_abreast (text : String) (h : s.Alike c s') :
    Abreast c Eq (swapRegistry text) (swapRegistry text) s s' := by
  refine Abreast.bind_eq (.modify ((h.withRegistry rfl).withHandle ?_))
    fun _ t t' ht => loadBatch_abreast text ht
  obtain ⟨hx, hx'⟩ | ⟨hx, hx'⟩ | ⟨r, r', hx, hx', hr⟩ :=
    Handle.cases_of_pruned_eq h.handle
  · rw [hx, hx']
  · rw [hx, hx']
    exact congrArg Handle.apart h.registry
  · rw [hx, hx']
    exact congrArg Handle.apart hr

theorem register_abreast {d d' : Definition}
    (hd : d.pruned c.keep = d'.pruned c.keep) (h : s.Alike c s') :
    Abreast c Eq (register d) (register d') s s' := by
  refine .get ?_
  refine (note_abreast _ _ h).bind_eq fun _ t t' ht => ?_
  refine setEngine_abreast ?_ h.keeps ht
  show ({ s.engine.pruned c.keep with
      registry := (s.engine.registry.register d).pruned c.keep } : Engine Hook)
    = { s'.engine.pruned c.keep with
        registry := (s'.engine.registry.register d').pruned c.keep }
  rw [Registry.pruned_register, Registry.pruned_register, h.engine,
    h.registry, hd]

theorem readRecord_abreast (text : List Char) (h : s.Alike c s') :
    Abreast c Eq (readRecord text) (readRecord text) s s' := by
  unfold readRecord
  cases Json.read text with
  | error fault => exact .throw _ h
  | ok v =>
      dsimp only
      cases Record.read v with
      | error refusal => exact .throw _ h
      | ok d => exact .pure rfl h

/-- On stages that are `Alike`, what `get?` finds is equal once `pruned`. -/
theorem Stage.Alike.get? (h : s.Alike c s') (id : String) :
    (s.engine.registry.get? id).map (·.pruned c.keep)
      = (s'.engine.registry.get? id).map (·.pruned c.keep) := by
  rw [← Registry.get?_pruned, ← Registry.get?_pruned, h.registry]

theorem registerState_abreast (id : String)
    (state : Except UnknownWord State) (h : s.Alike c s') :
    Abreast c Eq (registerState id state) (registerState id state) s s' := by
  have hget := h.get? id
  refine .get ?_
  cases hd : s.engine.registry.get? id with
  | none =>
      rw [hd] at hget
      rw [Option.map_eq_none_iff.1 hget.symm]
      exact .throw _ h
  | some d =>
      rw [hd, Option.map_some] at hget
      obtain ⟨d', hd', hpruned⟩ := Option.map_eq_some_iff.1 hget.symm
      rw [hd']
      cases state with
      | error word => exact .throw _ h
      | ok state =>
          have hboth : (d.withState state).pruned c.keep
              = (d'.withState state).pruned c.keep := by
            rw [Definition.pruned_withState, Definition.pruned_withState,
              hpruned]
          have hnames : ∀ {d d' : Definition},
              d.pruned c.keep = d'.pruned c.keep →
              d.states.names = d'.states.names := by
            intro d d' h
            rw [← Catalog.names_map d.states fun _ s => s.pruned c.keep,
              ← Catalog.names_map d'.states fun _ s => s.pruned c.keep]
            exact congrArg (fun d => d.states.names) h
          refine (register_abreast hboth h).bind_eq fun _ t t' ht => ?_
          rw [hnames hpruned.symm, hnames hboth]
          exact .pure rfl ht

theorem registerHandler_abreast {name : String} {program : Program}
    (hsuits : (Operation.registerHandler name program).Suits c.keep c.fair)
    (h : s.Alike c s') :
    Abreast c Eq (registerHandler name program) (registerHandler name program)
      s s' := by
  obtain ⟨hname, hruns⟩ := hsuits
  refine .get ?_
  refine (note_abreast _ _ h).bind_eq fun _ t t' ht => ?_
  refine .modify ⟨?_, ht.events, ?_, ht.reacts, ?_⟩
  · show ({ t.outline c.keep with
        programs := t.programs ++ [program]
        engine := (t.engine.pruned c.keep).registerHandler name
          (.program t.programs.length) } : Stage)
      = { t'.outline c.keep with
          programs := t'.programs ++ [program]
          engine := (t'.engine.pruned c.keep).registerHandler name
            (.program t'.programs.length) }
    rw [ht.outline, ht.programs, ht.engine]
  · intro other hother
    have hother : ((t.engine.handlers.put name
      (.program t.programs.length)).get? other).isSome = true := hother
    rw [Catalog.get?_put] at hother
    by_cases heq : other = name
    · rw [heq]
      exact hname
    · rw [if_neg heq] at hother
      exact ht.keeps other hother
  · intro p hp
    rcases List.mem_append.1 hp with hp | hp
    · exact ht.operates p hp
    · rw [List.mem_singleton.1 hp]
      exact hruns

-- ========================================================== operations

theorem changeEmitter_abreast
    (change : Emitter → Action.Kind → String → Emitter)
    (event listener : String) (h : s.Alike c s') :
    Abreast c Eq (changeEmitter change event listener)
      (changeEmitter change event listener) s s' := by
  have hcontains : s.listeners.contains listener
      = s'.listeners.contains listener := by
    rw [h.listeners]
  refine .get ?_
  rw [hcontains]
  by_cases hknown : s'.listeners.contains listener = true
  · rw [if_pos hknown, if_pos hknown]
    cases Action.Kind.vocabulary.read event with
    | error word => exact .throw _ h
    | ok kind =>
        refine ⟨.ok rfl, ?_, h.events, h.keeps, h.reacts, h.operates⟩
        show ({ s.outline c.keep with
            emitter := change s.emitter kind listener } : Stage)
          = { s'.outline c.keep with
              emitter := change s'.emitter kind listener }
        rw [h.outline, h.emitter]
  · rw [if_neg hknown, if_neg hknown]
    exact .throw _ h

/-- On stages that are `Alike`, the answers to a question are `Alike`. -/
theorem answer_alike (query : Query) (h : s.Alike c s') :
    Outcomes (Reply.Alike c.keep) (answer s query) (answer s' query) := by
  have hknown : ∀ id, (s.engine.registry.get? id).isSome
      = (s'.engine.registry.get? id).isSome := by
    intro id
    have hget := congrArg Option.isSome (h.get? id)
    rwa [Option.isSome_map, Option.isSome_map] at hget
  have hfind : ∀ intent,
      (s.engine.registry.findByTrigger intent).map (·.id)
        = (s'.engine.registry.findByTrigger intent).map (·.id) := by
    intro intent
    have hpruned : ∀ found : Option Definition,
        found.map (·.id) = (found.map (·.pruned c.keep)).map (·.id) := by
      intro found
      rw [Option.map_map]
      rfl
    rw [hpruned, hpruned (s'.engine.registry.findByTrigger intent),
      ← Registry.findByTrigger_pruned, ← Registry.findByTrigger_pruned,
      h.registry]
  have hsame : answer s query = answer s' query →
      Outcomes (Reply.Alike c.keep) (answer s query) (answer s' query) := by
    intro heq
    rw [heq]
    cases answer s' query with
    | error fault => exact .error fault
    | ok reply => exact .ok (.same reply)
  cases query with
  | handlers names =>
      refine hsame ?_
      simp only [answer, Engine.handlerNames]
      rw [h.handlers]
  | shouldTrigger intent =>
      have htrigger := congrArg Option.isSome (hfind intent)
      rw [Option.isSome_map, Option.isSome_map] at htrigger
      refine hsame ?_
      simp only [answer, Registry.shouldTrigger]
      rw [htrigger]
  | findByTrigger intent =>
      refine hsame ?_
      simp only [answer]
      rw [hfind]
  | registry ids =>
      refine hsame ?_
      simp only [answer, hknown]
      rw [← s.engine.registry.ids_pruned, h.registry, Registry.ids_pruned]
  | record id =>
      have hget := h.get? id
      simp only [answer]
      cases hd : s.engine.registry.get? id with
      | none =>
          rw [hd] at hget
          rw [Option.map_eq_none_iff.1 hget.symm]
          exact .ok (.same _)
      | some d =>
          rw [hd, Option.map_some] at hget
          obtain ⟨d', hd', hpruned⟩ := Option.map_eq_some_iff.1 hget.symm
          rw [hd']
          exact .ok (.record hpruned.symm)
  | problems id =>
      have hproblems := congrArg (Option.map (·.problems)) (h.get? id)
      rw [Option.map_map, Option.map_map] at hproblems
      simp only [Function.comp_def, Definition.problems_pruned] at hproblems
      refine hsame ?_
      simp only [answer]
      rw [hproblems]
  | subscribers event =>
      refine hsame ?_
      simp only [answer]
      rw [h.emitter]

section Within

variable {inner inner' : Operation → Run Reply}
  (hinner : ∀ op s s', c.fair op → s.Alike c s' →
    Abreast c (Reply.Alike c.keep) (inner op) (inner' op) s s')
include hinner

/-- For an operation that suits the regime, `perform` is `Abreast`. -/
theorem perform_abreast {op : Operation} (hop : op.Suits c.keep c.fair)
    (h : s.Alike c s') :
    Abreast c (Reply.Alike c.keep) (perform inner op) (perform inner' op)
      s s' := by
  -- most operations reply the same on both sides
  have hsame : ∀ {m m' : Run Reply}, Abreast c Eq m m' s s' →
      Abreast c (Reply.Alike c.keep) m m' s s' := fun hm =>
    ⟨hm.outcome.mono fun a b hab => hab ▸ .same a, hm.stage⟩
  cases op with
  | handle text intent =>
      refine (handle_abreast_same hinner text intent h).bind_eq
        fun r t t' ht => ?_
      exact .pure (.same _) ht
  | process text => exact process_abreast hinner text h
  | announce message =>
      refine (demand_abreast _ h).bind_eq fun _ t t' ht => .get ?_
      have haction : t.engine.announce message
          = t'.engine.announce message := by
        unfold Engine.announce Engine.workflow? Engine.context
        rw [ht.active]
      rw [haction]
      refine (dispatch_abreast hinner _ none t t' ht).bind_eq
        fun _ u u' hu => ?_
      exact .pure (.same _) hu
  | reset =>
      refine .get ((note_abreast _ _ h).bind_eq fun _ t t' ht => ?_)
      refine Abreast.bind_eq (.modify (remember_alike ht))
        fun _ u u' hu => ?_
      have hreset : s.engine.reset.pruned c.keep
          = s'.engine.reset.pruned c.keep := by
        show (s.engine.pruned c.keep).reset = (s'.engine.pruned c.keep).reset
        rw [h.engine]
      have hkeeps : s.engine.reset.Keeps c.keep := h.keeps
      exact (setEngine_abreast hreset hkeeps hu).bind_eq
        fun _ v v' hv => .pure (.same _) hv
  | loadBatch text => exact hsame (loadBatch_abreast text h)
  | loadFile path =>
      refine hsame (.get ?_)
      rw [loadFile_eq, loadFile_eq, h.disk]
      exact takeLoaded_abreast _ h
  | loadBuiltins =>
      exact hsame (.get (takeLoaded_abreast (.ok Builtins.all) h))
  | loadApart text => exact hsame (loadApart_abreast text h)
  | swapRegistry text => exact hsame (swapRegistry_abreast text h)
  | register record =>
      refine (readRecord_abreast _ h).bind_eq fun d t t' ht => ?_
      exact (register_abreast rfl ht).bind_eq fun _ u u' hu =>
        .pure (.same _) hu
  | registerDefinition d =>
      exact (register_abreast rfl h).bind_eq fun _ t t' ht =>
        .pure (.same _) ht
  | registerState id state => exact hsame (registerState_abreast id state h)
  | registerHandler name program =>
      exact (registerHandler_abreast hop h).bind_eq fun _ t t' ht =>
        .pure (.same _) ht
  | subscribe event listener =>
      exact (changeEmitter_abreast Emitter.subscribe event listener
        h).bind_eq fun _ t t' ht => .pure (.same _) ht
  | unsubscribe event listener =>
      exact (changeEmitter_abreast Emitter.unsubscribe event listener
        h).bind_eq fun _ t t' ht => .pure (.same _) ht
  | emit action =>
      exact (dispatch_abreast hinner action none s s' h).bind_eq
        fun _ t t' ht => .pure (.same _) ht
  | ask query => exact .get (.lift (answer_alike query h) h)
  | refuse word => exact .throw _ h

end Within

-- ================================================================== runs

/-- The journal is compared no further: `journalled` keeps runs `Abreast`. -/
theorem journalled_abreast {m m' : Operation → Run Reply} (op : Operation)
    (hm : ∀ s s', s.Alike c s' →
      Abreast c (Reply.Alike c.keep) (m op) (m' op) s s')
    (h : s.Alike c s') :
    Abreast c (Reply.Alike c.keep) (journalled m op) (journalled m' op)
      s s' := by
  obtain ⟨houtcome, hstage⟩ := hm { s with journal := [] }
    { s' with journal := [] }
    ⟨h.outline, h.events, h.keeps, h.reacts, h.operates⟩
  exact ⟨houtcome, hstage.outline, hstage.events, hstage.keeps,
    hstage.reacts, hstage.operates⟩

/-- At every depth, a fair operation run `within` is `Abreast`. -/
theorem within_abreast (depth : Nat) :
    ∀ op s s', c.fair op → s.Alike c s' →
      Abreast c (Reply.Alike c.keep) (within depth op) (within depth op)
        s s' := by
  induction depth with
  | zero => exact fun op s s' _ h => .pure (.same _) h
  | succ depth ih =>
      intro op s s' hop h
      show Abreast c _ (runWithin depth op) (runWithin depth op) s s'
      rw [runWithin_eq]
      exact journalled_abreast op
        (fun t t' ht => perform_abreast ih (c.suits op hop) ht) h

/-- For an operation that suits the regime, `run` is `Abreast`. -/
theorem run_abreast {op : Operation} (hop : op.Suits c.keep c.fair)
    (h : s.Alike c s') :
    Abreast c (Reply.Alike c.keep) (run op) (run op) s s' := by
  have hdepth := journalled_abreast op
    (fun t t' ht => perform_abreast
      (within_abreast (s.budget + op.weight)) hop ht) h
  rw [← runWithin_eq] at hdepth
  constructor
  · show Outcomes _ (runWithin (s.budget + op.weight) op s).1
      (runWithin (s'.budget + op.weight) op s').1
    rw [← h.budget]
    exact hdepth.outcome
  · show Stage.Alike c (runWithin (s.budget + op.weight) op s).2
      (runWithin (s'.budget + op.weight) op s').2
    rw [← h.budget]
    exact hdepth.stage

/-- If every step is `Abreast`, `runAllBy` comes to results that are `Alike`,
one by one, and leaves stages that are. -/
theorem runAllBy_abreast {step step' : Operation → Run Reply}
    (ops : List Operation) (hstep : ∀ op ∈ ops, ∀ t t', t.Alike c t' →
      Abreast c (Reply.Alike c.keep) (step op) (step' op) t t')
    (h : s.Alike c s') :
    List.Forall₂ (Outcomes (Reply.Alike c.keep)) (runAllBy step ops s).1
        (runAllBy step' ops s').1
      ∧ (runAllBy step ops s).2.Alike c (runAllBy step' ops s').2 := by
  induction ops generalizing s s' with
  | nil => exact ⟨.nil, h⟩
  | cons op rest ih =>
      obtain ⟨houtcome, hstage⟩ := hstep op (List.mem_cons_self ..) s s' h
      obtain ⟨houtcomes, hstages⟩ :=
        ih (fun op' hop' => hstep op' (List.mem_cons_of_mem _ hop')) hstage
      exact ⟨.cons houtcome houtcomes, hstages⟩

/-- The same for `runAll`, with operations that suit the regime. -/
theorem runAll_abreast (ops : List Operation)
    (hops : ∀ op ∈ ops, op.Suits c.keep c.fair) (h : s.Alike c s') :
    List.Forall₂ (Outcomes (Reply.Alike c.keep)) (runAll ops s).1
        (runAll ops s').1
      ∧ (runAll ops s).2.Alike c (runAll ops s').2 :=
  runAllBy_abreast ops (fun op hop _ _ ht => run_abreast (hops op hop) ht) h

end Script
end Colloquy
