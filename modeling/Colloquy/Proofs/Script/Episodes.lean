/-
Episodes. The actions of an engine tell the life of one workflow after
another: it enters states and takes inputs, all under one id, and then it
exits, is dropped by a reset, or is still running. A workflow whose first
state is missing exits at once. An engine is active exactly where an
episode is open, and runs the workflow of that episode.

# Once each

Actions other than messages come from inputs: a consumed input emits the
one action that it returns, and any other input emits nothing. A message
comes from an announcement, which emits the one that it returns. Nothing
else emits anything (`Emits`).

The induction over a run adds the marks of one operation at the end of the
story so far. `Advances` says what one operation adds and where the engine
is before and after; `Story.advance` does the adding. Only in a stage with
a stray, or with a listener that calls the engine back, could an operation
move the engine without a word, so the induction carries that there are
none (`Stage.Calm`). A stray can also leave an announcement without its
message (`number_unannounced`).
-/
import Colloquy.Proofs.Script.Hearing
import Colloquy.Proofs.Script.Numbers

namespace Colloquy.Script

-- ============================================================ calm stages

/-- The buffer of the draft holds a text, and every value that it remembers
`hasText`. -/
structure Draft.Proper (d : Draft) : Prop where
  buffer : ∃ text, d.buffer = .string text
  texts : d.context.hasTexts = true

/-- A `Proper` draft settles without a stray. -/
theorem Draft.Proper.settle {d : Draft} (h : d.Proper) (rows : Rows) :
    d.settle rows = (rows, none) := by
  obtain ⟨text, hbuffer⟩ := h.buffer
  unfold Draft.settle
  rw [hbuffer]
  dsimp only
  rw [if_pos h.texts]

/-- What `gather` adds to a `Proper` draft leaves it proper. -/
theorem Draft.Proper.gather {d : Draft} (h : d.Proper) (handler : Handler)
    (text : String) : ∃ d', d.gather handler text = .ok d' ∧ d'.Proper := by
  obtain ⟨old, hold⟩ := h.buffer
  unfold Draft.gather Draft.append
  rw [hold]
  exact ⟨_, rfl, ⟨_, rfl⟩, h.texts⟩

/-- Every instruction of the program is a `touch` that leaves a `Proper` draft
where it found one. -/
structure Program.Tame (p : Program) : Prop where
  keeps : p.keepsToContext = true
  proper : ∀ change, .touch change ∈ p.instructions → ∀ text d d',
    d.Proper → change text d = .ok d' → d'.Proper

/-- The operation `isOwn`, and brings no program but `Tame` ones. -/
structure Operation.Calm (op : Operation) : Prop where
  own : op.isOwn = true
  tame : ∀ p ∈ op.brings, p.Tame

theorem Operation.Calm.direct {op : Operation} (h : op.Calm) :
    op.isDirect = true :=
  Bool.and_eq_true_iff.2
    ⟨h.own, List.all_eq_true.2 fun p hp => (h.tame p hp).keeps⟩

/-- No buffer on the stage holds a stray, and the running context `hasTexts`.
-/
structure Stage.Clear (s : Stage) : Prop where
  strays : s.strays = []
  texts : ∀ a, s.engine.active = some a → a.context.hasTexts = true

/-- The programs are `Tame`, the listeners `Passive`, and the stage is `Clear`.
-/
structure Stage.Calm (s : Stage) : Prop where
  tame : ∀ p ∈ s.programs, p.Tame
  passive : s.Passive
  clear : s.Clear

theorem Stage.Calm.keeps {s : Stage} (h : s.Calm) : s.KeepsToContexts :=
  fun p hp => (h.tame p hp).keeps

section Clear

variable {s : Stage} {a : Activation}

/-- On a `Clear` stage, the draft of the running activation is `Proper`. -/
theorem Stage.Clear.draft (hs : s.Clear)
    (hactive : s.engine.active = some a) : (s.draft a.serial).Proper := by
  unfold Stage.draft
  rw [hs.strays, contextOf_active hactive]
  exact ⟨⟨_, rfl⟩, hs.texts a hactive⟩

/-- Writing a `Proper` draft to the running activation leaves the stage
`Clear`. -/
theorem Stage.Clear.write (hs : s.Clear)
    (hactive : s.engine.active = some a) {d : Draft} (hd : d.Proper) :
    (s.write a.serial d).Clear
      ∧ (s.write a.serial d).engine.active
        = some { a with context := d.context } := by
  have hwritten : (s.write a.serial d).engine.active
      = some { a with context := d.context } := by
    show (s.engine.writeContext a.serial d.context).active = _
    simp [Engine.writeContext, hactive]
  refine ⟨⟨?_, fun b hb => ?_⟩, hwritten⟩
  · unfold Stage.write
    rw [hd.settle, hs.strays]
    rfl
  · cases hwritten.symm.trans hb
    exact hd.texts

/-- The stage is `Clear`, and the running activation has this serial. -/
def Stage.ClearAt (s : Stage) (serial : Nat) : Prop :=
  s.Clear ∧ ∃ a, s.engine.active = some a ∧ a.serial = serial

/-- An edit that leaves `Proper` drafts leaves the stage `ClearAt` its serial.
-/
theorem edit_clear {change : Draft → Except Fault Draft} {serial : Nat}
    (hchange : ∀ d d', d.Proper → change d = .ok d' → d'.Proper)
    (hs : s.ClearAt serial) : (edit serial change s).2.ClearAt serial := by
  obtain ⟨hclear, a, hactive, rfl⟩ := hs
  unfold edit
  rw [get_bind_apply]
  cases hd : change (s.draft a.serial) with
  | error fault => exact ⟨hclear, a, hactive, rfl⟩
  | ok d =>
      obtain ⟨hwrite, hwritten⟩ :=
        hclear.write hactive (hchange _ d (hclear.draft hactive) hd)
      exact ⟨hwrite, _, hwritten, rfl⟩

/-- To leave a stage `ClearAt` a serial is a `Law`. -/
theorem clear_law (serial : Nat) : Law fun m _ =>
    ∀ s, s.ClearAt serial → (m s).2.ClearAt serial where
  nothing := fun _ hs => hs
  andThen := @fun m _ k _ hm hk s hs => by
    have hms := hm s hs
    rw [bind_apply]
    rcases h : m s with ⟨fault | done, t⟩
    · rwa [h] at hms
    · rw [h] at hms
      exact hk t hms
  look := fun _ _ hk s hs => hk s s hs

/-- With `Tame` programs, `touch` leaves the stage `Clear`. -/
theorem touch_clear (text : String) (hook : Hook)
    (htame : ∀ p ∈ s.programs, p.Tame) (hs : s.Clear)
    (hactive : s.engine.active = some a) :
    (touch text a hook s).2.Clear := by
  have hs : s.ClearAt a.serial := ⟨hs, a, hactive, rfl⟩
  cases hook with
  | plain handler =>
      unfold touch
      refine (edit_clear (fun d d' hd h => ?_) hs).1
      obtain ⟨d'', hgather, hproper⟩ := hd.gather handler text
      rw [hgather] at h
      cases h
      exact hproper
  | program slot =>
      simp only [touch]
      rw [get_bind_apply]
      cases hp : s.programs[slot]? with
      | none => exact hs.1
      | some p =>
          have hproper := (htame p (List.mem_of_getElem? hp)).proper
          exact ((clear_law a.serial).touchAll
            (fun change hchange t ht =>
              edit_clear (hproper change hchange text) ht) s hs).1

end Clear

/-- What `plan` leaves running `hasTexts`, if what was running did. -/
theorem plan_hasTexts {e : Engine Hook}
    (h : ∀ a, e.active = some a → a.context.hasTexts = true)
    (text intent : String) :
    ∀ b, (e.plan text intent).carryOut.engine.active = some b
      → b.context.hasTexts = true := by
  have hplan : ∀ b, (e.plan text intent).engine.active = some b
      → b.context.hasTexts = true := by
    intro b hb
    unfold Context.hasTexts
    rcases Engine.plan_numbers e text intent
      with ⟨a, c, ha, hac, hengine⟩ | ⟨hidle, hengine⟩ |
        ⟨d, c, -, hdc, hengine⟩
    · rw [hengine] at hb
      cases hb
      rw [hac.metadata]
      exact h a ha
    · rw [hengine, hidle] at hb
      cases hb
    · rw [hengine] at hb
      cases hb
      rw [hdc.metadata]
      rfl
  generalize e.plan text intent = p at hplan
  obtain ⟨engine, entries, course⟩ := p
  cases course with
  | leave a template => exact nofun
  | _ => exact hplan

/-- Carrying out a plan (`carryOut`) leaves the strays as they are. -/
theorem carryOut_leaves_strays (p : Engine.Plan Hook) :
    Leaves Stage.strays (carryOut p) := by
  have hdemand : Leaves Stage.strays (demand p.course.template?) := by
    intro s
    rcases demand_cases p.course.template? s with h | ⟨-, -, fault, h⟩
    · rw [h]
    · rw [h]
  have hremember : Leaves Stage.strays (rememberEnding p.course) := by
    cases p.course with
    | _ => exact fun _ => rfl
  refine leaves_bind (fun _ => rfl) fun _ => ?_
  refine leaves_bind (fun _ => rfl) fun _ => ?_
  refine leaves_bind hdemand fun _ => ?_
  exact leaves_bind hremember fun _ _ => rfl

/-- On a `Clear` stage, the plan of an input is carried out without a fault,
and the stage is `Clear` afterwards. -/
theorem carryOut_calm {s : Stage} (hs : s.Clear) (text intent : String) :
    ∃ t, carryOut (s.engine.plan text intent) s
        = (.ok ((s.engine.plan text intent).carryOut.step, none), t)
      ∧ t.engine = (s.engine.plan text intent).carryOut.engine ∧ t.Clear := by
  obtain ⟨t, hcarry, hengine⟩ := carryOut_clear (s := s)
    (p := s.engine.plan text intent) (Stage.stray?_of_strays hs.strays)
  have hstrays := carryOut_leaves_strays (s.engine.plan text intent) s
  rw [hcarry] at hstrays
  refine ⟨t, hcarry, hengine, hstrays.trans hs.strays, ?_⟩
  rw [hengine]
  exact plan_hasTexts hs.texts text intent

/-- With `Tame` programs, an input settles on a stage that is `Clear`. -/
theorem settle_handle_clear {s : Stage} (htame : ∀ p ∈ s.programs, p.Tame)
    (hs : s.Clear) (text intent : String) :
    (settle (.handle text intent) s).2.Clear := by
  obtain ⟨t, hcarry, hengine, hclear⟩ := carryOut_calm hs text intent
  have htame : ∀ q ∈ (carryOut (s.engine.plan text intent) s).2.programs,
      q.Tame := (carryOut_backstage _).all
    (fun q hq => absurd hq List.not_mem_nil) htame
  rw [hcarry] at htame
  simp only [settle]
  rw [get_bind_apply, bind_of_ok hcarry]
  cases hstep : (s.engine.plan text intent).carryOut.step with
  | settled outcome => exact hclear
  | failed fault => exact hclear
  | capture hook a state =>
      have hactive : t.engine.active = some a :=
        hengine ▸ Engine.carryOut_captured hstep
      have htouched := touch_clear text hook htame hclear hactive
      -- the engine is asked what was captured, and stays as it is
      dsimp only
      rw [bind_stage ?_ t]
      · exact htouched
      · intro _ u
        rw [get_bind_apply]
        cases u.engine.captured state <;> rfl

/-- With `Tame` programs, a `Calm` operation settles on a stage that is
`Clear`. -/
theorem settle_clear {op : Operation} (hop : op.Calm)
    (hsub : op.isSubscription = false) {s : Stage}
    (htame : ∀ p ∈ s.programs, p.Tame) (hs : s.Clear) :
    (settle op s).2.Clear := by
  cases htold : op.isTold with
  | false =>
      obtain ⟨hstrays, hactive⟩ := settle_running hop.own hsub htold s
      refine ⟨hstrays.trans hs.strays, ?_⟩
      rw [hactive]
      cases op.isReset with
      | true => exact nofun
      | false => exact hs.texts
  | true =>
      cases op with
      | announce message =>
          rw [settle_announce]
          exact hs
      | handle text intent => exact settle_handle_clear htame hs text intent
      | _ => cases htold

/-- Running a `Calm` operation leaves a `Calm` stage. -/
theorem run_calm {op : Operation} (hop : op.Calm) {s : Stage}
    (hs : s.Calm) : (run op s).2.Calm := by
  cases hsub : op.isSubscription with
  | true =>
      obtain ⟨emitter, journal, hrun⟩ := run_subscription hsub s
      rw [hrun]
      exact ⟨hs.tame, hs.passive, hs.clear.strays, hs.clear.texts⟩
  | false =>
      obtain ⟨-, halone, hpassive, -⟩ :=
        run_heard hop.direct hsub hs.keeps hs.passive
      have hclear := settle_clear hop hsub hs.tame hs.clear
      refine ⟨?_, hpassive, ?_, ?_⟩
      · rw [Stage.programs_eq_of_alone halone]
        exact (settle_backstage hop.direct hsub).all hop.tame hs.tame
      · exact (congrArg Stage.strays halone).trans hclear.strays
      · rw [Stage.engine_eq_of_alone halone]
        exact hclear.texts

-- ============================================================== emissions

/-- What an operation at the engine `e` emits, given what it comes to. A
consumed input emits the action that it returns and any other input nothing; an
announcement emits a message of the running workflow, which it returns; nothing
else emits anything. -/
inductive Emits (e : Engine Hook) :
    Operation → Except Fault Reply → List Action → Prop
  | consumed {text intent : String} {action : Action}
      {stray : Option Stray} :
      Emits e (.handle text intent) (.ok (.outcome (.done action) stray))
        [action]
  | ignored {text intent : String} {stray : Option Stray} :
      Emits e (.handle text intent) (.ok (.outcome .ignored stray)) []
  | raised {text intent : String} {fault : Fault} :
      Emits e (.handle text intent) (.error fault) []
  | announced {message : String} :
      Emits e (.announce message)
        (.ok (.action (.message e.workflow?
          (Template.render message e.context))))
        [.message e.workflow? (Template.render message e.context)]
  | silent {op : Operation} {result : Except Fault Reply}
      (h : op.isTold = false) : Emits e op result []

/-- A step that is settled has an action, or ignores the input. -/
theorem outcome_of_settled {p : Engine.Plan Hook} {outcome : Outcome}
    (h : p.carryOut.step = .settled outcome) :
    outcome = .ignored ∨ ∃ action, outcome = .done action := by
  obtain ⟨engine, entries, course⟩ := p
  cases course with
  | ignored =>
      cases h
      exact .inl rfl
  | leave a template =>
      cases h
      exact .inr ⟨_, rfl⟩
  | arrive a workflow key template =>
      cases h
      exact .inr ⟨_, rfl⟩
  | failed fault => cases h
  | capture hook a state => cases h

/-- The news that an operation settles with is what it `Emits`. -/
theorem settle_emits {op : Operation} {s : Stage} (hs : s.Calm) :
    Emits s.engine op ((settle op s).1.map Prod.fst)
      ((newsOf op s).map Prod.fst) := by
  cases htold : op.isTold with
  | false =>
      rw [newsOf_quiet htold]
      exact .silent htold
  | true =>
      cases op with
      | announce message =>
          have hclear : demand (some message) s = (.ok (), s) := by
            rcases demand_cases (some message) s with h | ⟨hstrays, -⟩
            · exact h
            · exact absurd hs.clear.strays hstrays
          have hsettle : settle (.announce message) s
              = (.ok (.action (s.engine.announce message),
                [(s.engine.announce message, none)]), s) :=
            bind_of_ok hclear
          rw [newsOf, hsettle]
          exact .announced
      | handle text intent =>
          have hhandled := settle_handle text intent s
          unfold newsOf
          generalize (settle (.handle text intent) s).1 = result
            at hhandled ⊢
          cases hhandled with
          | brokenOff _ _ => exact .raised
          | captured _ _ _ => exact .consumed
          | settled hstep _ =>
              rcases outcome_of_settled hstep with rfl | ⟨action, rfl⟩
              · exact .ignored
              · exact .consumed
      | _ => cases htold

-- =============================================================== stories

/-- An action other than a message, or a reset that dropped the running
workflow. -/
inductive Mark
  | action (action : Action)
  | reset

/-- The marks of an operation, given what it emits. -/
def marksOf (e : Engine Hook) (op : Operation) (emitted : List Action) :
    List Mark :=
  (emitted.filter (·.kind ≠ .message)).map .action
    ++ if op.isReset && e.isActive then [.reset] else []

/-- An open episode of the workflow `w`: it entered a state, and after that
entered states and took inputs. -/
inductive Opened (w : String) : List Mark → Prop
  | enter {key message : String} :
      Opened w [.action (.enterState w key message)]
  | enterMore {marks : List Mark} {key message : String}
      (h : Opened w marks) :
      Opened w (marks ++ [.action (.enterState w key message)])
  | capture {marks : List Mark} {key : String} (h : Opened w marks) :
      Opened w (marks ++ [.action (.inputCaptured w key)])

/-- A closed episode of the workflow `w`: an exit, or an `Opened` one with an
exit or a reset after it. -/
inductive Episode (w : String) : List Mark → Prop
  | exit {message : String} {context : Context} :
      Episode w [.action (.exitWorkflow w message context)]
  | exitOpened {marks : List Mark} {message : String} {context : Context}
      (h : Opened w marks) :
      Episode w (marks ++ [.action (.exitWorkflow w message context)])
  | resetOpened {marks : List Mark} (h : Opened w marks) :
      Episode w (marks ++ [.reset])

/-- The marks so far: closed episodes, and then an `Opened` one of the running
workflow, if one is running. -/
def Story (running : Option String) (marks : List Mark) : Prop :=
  ∃ (closed : List (List Mark)) (now : List Mark),
    marks = closed.flatten ++ now
      ∧ (∀ episode ∈ closed, ∃ w, Episode w episode)
      ∧ match running with
        | none => now = []
        | some w => Opened w now

/-- The marks that one operation adds to a `Story`, with the workflow that is
running before and after. -/
inductive Advances : Option String → List Mark → Option String → Prop
  | stays {running : Option String} : Advances running [] running
  | enters {before : Option String} {w key message : String}
      (h : before = none ∨ before = some w) :
      Advances before [.action (.enterState w key message)] (some w)
  | captures {w key : String} :
      Advances (some w) [.action (.inputCaptured w key)] (some w)
  | exits {before : Option String} {w message : String} {context : Context}
      (h : before = none ∨ before = some w) :
      Advances before [.action (.exitWorkflow w message context)] none
  | resets {w : String} : Advances (some w) [.reset] none

/-- A `Story` whose open episode is closed. -/
theorem Story.close {w : String} {closed : List (List Mark)}
    {last : List Mark} (hclosed : ∀ episode ∈ closed, ∃ w, Episode w episode)
    (hlast : Episode w last) : Story none (closed.flatten ++ last) := by
  refine ⟨closed ++ [last], [], ?_, ?_, rfl⟩
  · rw [List.flatten_append, List.flatten_singleton, List.append_nil]
  · intro episode hepisode
    rcases List.mem_append.1 hepisode with h | h
    · exact hclosed episode h
    · rw [List.mem_singleton.1 h]
      exact ⟨w, hlast⟩

/-- A `Story` goes on with what `Advances` it. -/
theorem Story.advance {before after : Option String} {marks new : List Mark}
    (h : Story before marks) (hnew : Advances before new after) :
    Story after (marks ++ new) := by
  obtain ⟨closed, now, rfl, hclosed, hnow⟩ := h
  cases hnew with
  | stays =>
      rw [List.append_nil]
      exact ⟨closed, now, rfl, hclosed, hnow⟩
  | enters hbefore =>
      refine ⟨closed, _, List.append_assoc .., hclosed, ?_⟩
      rcases hbefore with rfl | rfl
      · have hnow : now = [] := hnow
        rw [hnow]
        exact .enter
      · exact .enterMore hnow
  | captures =>
      exact ⟨closed, _, List.append_assoc .., hclosed, .capture hnow⟩
  | exits hbefore =>
      rw [List.append_assoc]
      rcases hbefore with rfl | rfl
      · have hnow : now = [] := hnow
        rw [hnow]
        exact .close hclosed .exit
      · exact .close hclosed (.exitOpened hnow)
  | resets =>
      rw [List.append_assoc]
      exact .close hclosed (.resetOpened hnow)

-- ============================================================== one step

/-- An operation that tells nothing marks nothing, unless it drops a workflow.
-/
theorem quiet_advances {op : Operation} (hop : op.Calm)
    (hsub : op.isSubscription = false) (htold : op.isTold = false)
    (s : Stage) :
    Advances s.engine.workflow? (marksOf s.engine op [])
      (settle op s).2.engine.workflow? := by
  obtain ⟨-, hactive⟩ := settle_running hop.own hsub htold s
  unfold marksOf Engine.workflow?
  rw [hactive]
  cases op.isReset with
  | false => exact .stays
  | true =>
      rw [Engine.isActive]
      cases s.engine.active with
      | none => exact .stays
      | some a => exact .resets

/-- The action that an input emits `Advances` the story. -/
theorem handled_advances {text intent : String} {s : Stage}
    (hs : s.strays = []) {result : Except Fault (Reply × List News)}
    {e : Engine Hook}
    (h : Handled s (s.engine.plan text intent) result e) :
    Advances s.engine.workflow?
      (marksOf s.engine (.handle text intent)
        ((newsIn result).map Prod.fst)) e.workflow? := by
  cases h with
  | brokenOff hplace hcause =>
      have hrest := hcause.resolve_left (absurd hs)
      rw [Engine.workflow?_eq_of_place hplace, Engine.plan_rest hrest]
      exact .stays
  | captured hcourse hplace hworkflow =>
      have hrest :
          (s.engine.plan text intent).course.template? = none := by
        rw [hcourse]
        rfl
      rw [← Engine.plan_rest hrest,
        ← Engine.workflow?_eq_of_place hplace, hworkflow]
      exact .captures
  | settled hstep hplace =>
      have hworkflow := Engine.workflow?_eq_of_place hplace
      have habout := fun b => @Engine.plan_workflow _ s.engine text intent b
      have hrest := @Engine.plan_rest _ s.engine text intent
      rw [hworkflow]
      generalize s.engine.plan text intent = p at hstep habout hrest
      obtain ⟨engine, entries, course⟩ := p
      cases course with
      | failed fault => cases hstep
      | capture hook a state => cases hstep
      | ignored =>
          cases hstep
          have hsame : (Engine.Plan.carryOut ⟨engine, entries, .ignored⟩
              ).engine.workflow? = s.engine.workflow? := hrest rfl
          rw [hsame]
          exact .stays
      | leave a template =>
          cases hstep
          obtain ⟨-, -, -, -, hbefore⟩ := habout a rfl
          exact .exits hbefore
      | arrive a workflow key template =>
          cases hstep
          obtain ⟨e', b, hgoes, hb, hbefore⟩ := habout a rfl
          obtain ⟨hown, -⟩ := hgoes.arrives a workflow key template rfl
          have hafter : (Engine.Plan.carryOut
              ⟨engine, entries, .arrive a workflow key template⟩
              ).engine.workflow? = some workflow := by
            rw [hown]
            exact hgoes.workflow?
          rw [← hb, ← hown] at hbefore
          rw [hafter]
          exact .enters hbefore

/-- What an operation settles with `Advances` the story. -/
theorem settle_advances {op : Operation} (hop : op.Calm)
    (hsub : op.isSubscription = false) {s : Stage} (hs : s.Calm) :
    Advances s.engine.workflow?
      (marksOf s.engine op ((newsOf op s).map Prod.fst))
      (settle op s).2.engine.workflow? := by
  cases htold : op.isTold with
  | false =>
      rw [newsOf_quiet htold]
      exact quiet_advances hop hsub htold s
  | true =>
      cases op with
      | announce message =>
          have hemits := @settle_emits (.announce message) s hs
          rw [settle_announce]
          generalize (settle (.announce message) s).1.map Prod.fst = result
            at hemits
          generalize (newsOf (.announce message) s).map Prod.fst = emitted
            at hemits ⊢
          cases hemits with
          | announced => exact .stays
          | silent h => cases h
      | handle text intent =>
          exact handled_advances hs.clear.strays (settle_handle text intent s)
      | _ => cases htold

-- ================================================================= runs

/-- A run of operations and the marks it leaves. Every operation `Emits` what
it may, its listeners hear of that and of nothing else, each once, and the
marks are those of what it emits. -/
inductive Tells : Stage → List Operation → Stage → List Mark → Prop
  | done {s : Stage} : Tells s [] s []
  | step {s t : Stage} {op : Operation} {ops : List Operation}
      {marks : List Mark} (news : List News)
      (hemits : Emits s.engine op (run op s).1 (news.map Prod.fst))
      (hheard : (run op s).2.events
        = s.events ++ news.flatMap (run op s).2.hearings)
      (rest : Tells (run op s).2 ops t marks) :
      Tells s (op :: ops) t
        (marksOf s.engine op (news.map Prod.fst) ++ marks)

/-- A `Calm` operation emits what it may, its listeners hear of it, and its
marks advance the `Story`. -/
theorem run_tells {op : Operation} (hop : op.Calm) {s : Stage}
    (hs : s.Calm) :
    ∃ news : List News, Emits s.engine op (run op s).1 (news.map Prod.fst)
      ∧ (run op s).2.events
        = s.events ++ news.flatMap (run op s).2.hearings
      ∧ Advances s.engine.workflow?
        (marksOf s.engine op (news.map Prod.fst))
        (run op s).2.engine.workflow? := by
  cases hsub : op.isSubscription with
  | true =>
      have htold : op.isTold = false := by
        cases op with
        | handle text intent => cases hsub
        | announce message => cases hsub
        | _ => rfl
      have hreset : op.isReset = false := by
        cases op with
        | reset => cases hsub
        | _ => rfl
      obtain ⟨emitter, journal, hrun⟩ := run_subscription hsub s
      refine ⟨[], .silent htold, ?_, ?_⟩
      · rw [hrun]
        exact (List.append_nil _).symm
      · rw [hrun, marksOf, hreset]
        exact .stays
  | false =>
      obtain ⟨hresult, halone, -, hevents⟩ :=
        run_heard hop.direct hsub hs.keeps hs.passive
      refine ⟨newsOf op s, ?_, hevents, ?_⟩
      · rw [hresult]
        exact settle_emits hs
      · rw [Stage.engine_eq_of_alone halone]
        exact settle_advances hop hsub hs

/-- The actions of a run tell of episodes. From an idle engine on a `Calm`
stage, every operation emits exactly what it may (`Tells`), and all operations
together tell a `Story`: closed episodes, each of one workflow, and then an
open one of the running workflow if the engine is active. -/
theorem runAll_tells (ops : List Operation) (s : Stage)
    (hidle : s.engine.active = none) (hs : s.Calm)
    (hops : ∀ op ∈ ops, op.Calm) :
    ∃ marks, Tells s ops (runAll ops s).2 marks
      ∧ Story (runAll ops s).2.engine.workflow? marks := by
  have hstory : ∀ (ops : List Operation) (s : Stage) (before : List Mark),
      s.Calm → (∀ op ∈ ops, op.Calm) → Story s.engine.workflow? before →
      ∃ marks, Tells s ops (runAll ops s).2 marks
        ∧ Story (runAll ops s).2.engine.workflow? (before ++ marks) := by
    intro ops
    induction ops with
    | nil =>
        intro s before _ _ hbefore
        exact ⟨[], .done, by rwa [List.append_nil]⟩
    | cons op rest ih =>
        intro s before hs hops hbefore
        have hop := hops op (List.mem_cons_self ..)
        obtain ⟨news, hemits, hheard, hadvances⟩ := run_tells hop hs
        obtain ⟨marks, htells, hstory⟩ := ih (run op s).2 _ (run_calm hop hs)
          (fun op' h => hops op' (List.mem_cons_of_mem _ h))
          (hbefore.advance hadvances)
        refine ⟨_, .step news hemits hheard htells, ?_⟩
        rw [← List.append_assoc]
        exact hstory
  have hstart : Story s.engine.workflow? [] := by
    rw [Engine.workflow?, hidle]
    exact ⟨[], [], rfl, nofun, rfl⟩
  exact hstory ops s [] hs hops hstart

/-- A stage with a listener that hears of ends, and raises each time. -/
def attended : Stage where
  engine := { registry := ({} : Registry).register Builtins.transcribe }
  emitter := ({} : Emitter).subscribe .exitWorkflow "clerk"
  listeners := .ofList [("clerk", { reactions := [.fail "no"], limit := 2 })]
  disk := { find := fun _ => .ok .device }

/-- On `attended`, a workflow is dropped and started again, and of two episodes
the listener hears the end of one. -/
theorem runAll_tells_attended :
    let ops : List Operation := [.handle "" "transcribe", .reset,
      .handle "" "transcribe", .handle "" "deny"]
    (runAll ops attended).2.events.length = 1
      ∧ ∃ marks, Tells attended ops (runAll ops attended).2 marks
        ∧ Story (runAll ops attended).2.engine.workflow? marks := by
  intro ops
  have hpassive : ∀ l ∈ attended.listeners.values, l.isPassive = true := by
    decide +kernel
  have hattended : attended.Calm := ⟨nofun, hpassive, rfl, nofun⟩
  have hhandle : ∀ text intent, (Operation.handle text intent).Calm :=
    fun _ _ => ⟨rfl, nofun⟩
  have hops : ∀ op ∈ ops, op.Calm :=
    List.forall_mem_cons.2 ⟨hhandle _ _, List.forall_mem_cons.2 ⟨⟨rfl, nofun⟩,
      List.forall_mem_cons.2 ⟨hhandle _ _, List.forall_mem_cons.2
        ⟨hhandle _ _, nofun⟩⟩⟩⟩
  refine ⟨by decide +kernel, ?_⟩
  exact runAll_tells ops attended rfl hattended hops

-- =============================================================== numbers

/-- A program that puts the number five into the buffer. -/
def numbering : Program := .mk [.touch fun _ d => .ok (d.put (.int 5))] 0

/-- Every change that `numbering` makes returns. -/
theorem numbering_returns (change : String → Draft → Except Fault Draft)
    (h : .touch change ∈ numbering.instructions) (text : String) (d : Draft) :
    ∃ d', change text d = .ok d' := by
  obtain rfl := Instruction.touch.inj (List.mem_singleton.1 h)
  exact ⟨_, rfl⟩

/-- A state whose handler is `number` and whose cap is one. -/
def numberedState : State where
  id := "a"
  onEnter := "Here."
  handler := some "number"
  maxTurns := some 1

/-- A workflow with `numberedState` and no other, whose exit message shows the
buffer. -/
def numbered : Definition where
  id := "numbered"
  trigger := "start"
  initial := "a"
  states := .ofList [("a", numberedState)]
  exitMessage := "\x7b\x7bbuffer\x7d\x7d"

/-- A stage with `numbered`, with `numbering` for its handler, and with a
listener that hears of messages. -/
def numberedStage : Stage where
  engine := {
    registry := ({} : Registry).register numbered
    handlers := .ofList [("number", .program 0)] }
  emitter := ({} : Emitter).subscribe .message "clerk"
  listeners := .ofList [("clerk", {})]
  programs := [numbering]
  disk := { find := fun _ => .ok .device }

/-- On `numberedStage` the handler keeps to its context and returns, and an
announcement that shows the buffer fails and emits nothing. -/
theorem number_unannounced :
    let s := numberedStage
    let ops : List Operation := [.handle "" "start", .handle "one" "",
      .announce "\x7b\x7bbuffer\x7d\x7d"]
    (∀ p ∈ s.programs, p.keepsToContext = true
        ∧ ∀ change, .touch change ∈ p.instructions →
          ∀ text d, ∃ d', change text d = .ok d')
      ∧ (∀ l ∈ s.listeners.values, l.isPassive = true)
      ∧ (runAll ops s).1.map Except.toBool = [true, true, false]
      ∧ (runAll ops s).2.engine.workflow? = some "numbered"
      ∧ (runAll ops s).2.events.length = 0 := by
  refine ⟨?_, by decide +kernel, by decide +kernel, by decide +kernel,
    by decide +kernel⟩
  intro p hp
  obtain rfl := List.mem_singleton.1 hp
  exact ⟨rfl, numbering_returns⟩

end Colloquy.Script
