/-
Turn caps are enforced exactly. A stay in a state is a stretch of a run
along which the engine is at that state; up to a moment of a run, the calls
of the stay are the last ones that found the engine there
(`sinceArrival`). The cap of the state bounds the inputs of a stay that are
counted: up to the cap they are decided by the transitions and the handler
of the state, beyond it they follow the target of the cap, whatever they
say.

# Leaving and returning

What follows depends on where the target leads. If it leads elsewhere, the
first input beyond the cap ends the stay, so the turns in the state never
exceed the cap (`Chronicle.bounded`); that is an induction over the calls
of the stay. If it leads back, every further input leads back, only an exit
phrase or a reset can end the stay, and what is remembered stays as it is
for good (`Chronicle.remembers`).

A stay goes on beyond its cap where the message of its end cannot be made
(`number_overstays`).
-/
import Colloquy.Proofs.Engine.Caps
import Colloquy.Proofs.Script.Passing

namespace Colloquy.Script

-- ============================================================= chronicles

/-- Calls, one after another, and the engine as it is in the end: at every
moment the counters are a tally (`Tallies`), every call `Passes` the engine on
to the next one, and `d` is registered all the while. -/
structure Chronicle (d : Definition) (calls : List Call)
    (last : Engine Hook) : Prop where
  tallies : ∀ before after, calls = before ++ after →
    Tallies before (foundNext after last)
  passes : ∀ before call after, calls = before ++ call :: after →
    call.Passes (foundNext after last)
  registered : ∀ call ∈ calls, call.found.registry.get? d.id = some d

/-- How many of the calls were counted `sinceArrival` at the state under `key`.
-/
def countedInStay (d : Definition) (key : String) (before : List Call) :
    Int :=
  counted (sinceArrival (d.id, some key) before)

variable {d : Definition} {key : String} {s : State} {calls : List Call}
  {last : Engine Hook}

/-- At the state, `stateTurnCount` is `countedInStay`. -/
theorem Chronicle.stateTurns (h : Chronicle d calls last)
    {before after : List Call} (hsplit : calls = before ++ after)
    {a : Activation} (hactive : (foundNext after last).active = some a)
    (hplace : (foundNext after last).place = some (d.id, some key)) :
    a.context.stateTurnCount = countedInStay d key before := by
  have htally := (h.tallies before after hsplit a hactive).stateTurns
  rw [Engine.place_of_active hactive] at hplace
  rw [Option.some.inj hplace] at htally
  exact htally

/-- A call of the chronicle that found the engine at the state found it `At`
the state, with `countedInStay` as its `stateTurnCount`. -/
theorem Chronicle.at (h : Chronicle d calls last)
    (hs : d.states.get? key = some s) {before after : List Call}
    {call : Call} (hsplit : calls = before ++ call :: after)
    (hplace : call.found.place = some (d.id, some key)) :
    ∃ a, call.found.At d key s a
      ∧ a.context.stateTurnCount = countedInStay d key before := by
  have hmem : call ∈ calls := by
    rw [hsplit]
    exact List.mem_append_right _ (List.mem_cons_self ..)
  obtain ⟨a, ha⟩ := Engine.at_of_place (h.registered call hmem) hs hplace
  exact ⟨a, ha, h.stateTurns hsplit ha.active hplace⟩

/-- A call there that `isCounted` is an input that matches no exit phrase. -/
theorem Chronicle.phrase_of_isCounted (h : Chronicle d calls last)
    (hs : d.states.get? key = some s) {before after : List Call}
    {call : Call} (hsplit : calls = before ++ call :: after)
    (hplace : call.found.place = some (d.id, some key))
    (hcounted : call.isCounted = true) :
    ∃ text intent, call.operation = .handle text intent
      ∧ d.matchesExitPhrase text = false := by
  obtain ⟨a, ha, -⟩ := h.at hs hsplit hplace
  unfold Call.isCounted at hcounted
  cases hop : call.operation with
  | handle text intent =>
      rw [hop] at hcounted
      have hcounts : call.found.counts text = true := hcounted
      rw [ha.counts, Bool.not_eq_true'] at hcounts
      exact ⟨text, intent, rfl, hcounts⟩
  | _ =>
      rw [hop] at hcounted
      cases hcounted

/-- A call that found the engine at the state adds to `countedInStay` if it
`isCounted`. -/
theorem countedInStay_snoc {before : List Call} {call : Call}
    (hplace : call.found.place = some (d.id, some key)) :
    countedInStay d key (before ++ [call])
      = countedInStay d key before + if call.isCounted then 1 else 0 := by
  unfold countedInStay
  rw [sinceArrival_snoc, if_pos hplace, counted_append, counted_singleton]

-- ============================================================== elsewhere

/-- Beyond the cap, an input ends the stay if `maxTurnsTarget` leads elsewhere.
-/
theorem Chronicle.ends (h : Chronicle d calls last)
    (hs : d.states.get? key = some s) {cap : Int}
    (hcap : s.turnCap = some cap)
    (htarget : s.maxTurnsTarget.LeadsSomewhere)
    (haway : ¬ s.maxTurnsTarget.LeadsTo key) {before after : List Call}
    {call : Call} (hsplit : calls = before ++ call :: after)
    (hplace : call.found.place = some (d.id, some key))
    {text intent : String} (hop : call.operation = .handle text intent)
    (hphrase : d.matchesExitPhrase text = false)
    (hbeyond : cap ≤ countedInStay d key before) :
    (foundNext after last).place ≠ some (d.id, some key) := by
  obtain ⟨a, ha, hturns⟩ := h.at hs hsplit hplace
  rw [← hturns] at hbeyond
  have hplan := ha.plan_redirected hphrase hcap hbeyond intent
  have hpasses := (h.passes before call after hsplit).handled text intent hop
  rw [hplan] at hpasses
  have hactive := hpasses (Engine.redirected_hook ..)
  rw [Engine.place_eq_of_active hactive]
  exact ha.redirected_leaves htarget haway _

/-- If `maxTurnsTarget` leads elsewhere, `countedInStay` never exceeds the cap.
-/
theorem Chronicle.bounded (h : Chronicle d calls last)
    (hs : d.states.get? key = some s) {cap : Int}
    (hcap : s.turnCap = some cap) (hpos : 0 < cap)
    (htarget : s.maxTurnsTarget.LeadsSomewhere)
    (haway : ¬ s.maxTurnsTarget.LeadsTo key) :
    ∀ before after, calls = before ++ after →
      (foundNext after last).place = some (d.id, some key) →
      countedInStay d key before ≤ cap := by
  intro before
  induction before using List.reverseRecOn with
  | nil =>
      intro after _ _
      exact Int.le_of_lt hpos
  | append_singleton before call ih =>
      intro after hsplit hnext
      have hsplit : calls = before ++ call :: after := by
        rw [hsplit, List.append_assoc]
        rfl
      by_cases hplace : call.found.place = some (d.id, some key)
      · have hle := ih (call :: after) hsplit hplace
        rw [countedInStay_snoc hplace]
        cases hcounted : call.isCounted with
        | false =>
            simpa using hle
        | true =>
            -- had the cap been reached, the stay would be over by now
            have hlt : countedInStay d key before < cap := by
              by_contra hge
              obtain ⟨text, intent, hop, hphrase⟩ :=
                h.phrase_of_isCounted hs hsplit hplace hcounted
              exact h.ends hs hcap htarget haway hsplit hplace hop hphrase
                (Int.not_lt.1 hge) hnext
            simp only [if_true]
            omega
      · unfold countedInStay
        rw [sinceArrival_snoc, if_neg hplace]
        exact Int.le_of_lt hpos

-- =================================================================== back

/-- The call is a reset, or an input that matches an exit phrase of `d`. -/
def Call.BreaksOff (call : Call) (d : Definition) : Prop :=
  call.operation = .reset
    ∨ ∃ text intent, call.operation = .handle text intent
      ∧ d.matchesExitPhrase text = true

/-- Beyond the cap, if `maxTurnsTarget` leads back, a call that `BreaksOff`
ends the stay, and any other one continues it and keeps buffer and metadata. -/
theorem Chronicle.returns (h : Chronicle d calls last)
    (hs : d.states.get? key = some s) {cap : Int}
    (hcap : s.turnCap = some cap) (hback : s.maxTurnsTarget.LeadsTo key)
    {before after : List Call} {call : Call}
    (hsplit : calls = before ++ call :: after)
    (hplace : call.found.place = some (d.id, some key))
    (hbeyond : cap ≤ countedInStay d key before) :
    (call.BreaksOff d ∧ (foundNext after last).active = none)
      ∨ (¬ call.BreaksOff d
        ∧ (foundNext after last).place = some (d.id, some key)
        ∧ (foundNext after last).context.memory
          = call.found.context.memory) := by
  obtain ⟨a, ha, hturns⟩ := h.at hs hsplit hplace
  have hpasses := h.passes before call after hsplit
  rw [← hturns] at hbeyond
  by_cases hreset : call.operation = .reset
  · exact .inl ⟨.inl hreset, hpasses.dropped hreset⟩
  by_cases hhandle : ∃ text intent, call.operation = .handle text intent
  · obtain ⟨text, intent, hop⟩ := hhandle
    cases hphrase : d.matchesExitPhrase text with
    | true =>
        obtain ⟨hhook, hidle⟩ := ha.plan_phrase hphrase intent
        refine .inl ⟨.inr ⟨text, intent, hop, hphrase⟩, ?_⟩
        rw [hpasses.handled text intent hop hhook]
        exact hidle
    | false =>
        have hplan := ha.plan_redirected hphrase hcap hbeyond intent
        have hnext := hpasses.handled text intent hop
        rw [hplan] at hnext
        have hnext := hnext (Engine.redirected_hook ..)
        obtain ⟨b, hb, hworkflow, hstate, hmemory⟩ :=
          ha.redirected_returns hback (Engine.capEntry s cap)
        rw [hb] at hnext
        refine .inr ⟨?_, ?_, ?_⟩
        · rintro (hreset' | ⟨text', intent', hop', hphrase'⟩)
          · exact hreset hreset'
          · rw [hop] at hop'
            cases hop'
            rw [hphrase] at hphrase'
            cases hphrase'
        · rw [Engine.place_of_active hnext, hworkflow, hstate]
        · unfold Engine.context
          rw [hnext, ha.active]
          exact hmemory
  · have hkept := hpasses.kept
      (fun text intent hop => hhandle ⟨text, intent, hop⟩) hreset
    refine .inr ⟨?_, ?_, ?_⟩
    · rintro (hreset' | ⟨text, intent, hop, -⟩)
      · exact hreset hreset'
      · exact hhandle ⟨text, intent, hop⟩
    · rw [Engine.place_eq_of_active hkept, hplace]
    · unfold Engine.context
      rw [hkept]

/-- Beyond the cap, if `maxTurnsTarget` leads back, buffer and metadata are the
same as long as the stay lasts. -/
theorem Chronicle.remembers (h : Chronicle d calls last)
    (hs : d.states.get? key = some s) {cap : Int}
    (hcap : s.turnCap = some cap) (hback : s.maxTurnsTarget.LeadsTo key) :
    ∀ (stay before after : List Call) (call : Call),
      calls = before ++ call :: (stay ++ after) →
      call.found.place = some (d.id, some key) →
      cap ≤ countedInStay d key before →
      (∀ other ∈ stay, other.found.place = some (d.id, some key)) →
      (foundNext after last).place = some (d.id, some key) →
      (foundNext after last).context.memory = call.found.context.memory := by
  intro stay
  induction stay with
  | nil =>
      intro before after call hsplit hplace hbeyond _ hnext
      rw [List.nil_append] at hsplit
      rcases h.returns hs hcap hback hsplit hplace hbeyond
        with ⟨-, hidle⟩ | ⟨-, -, hmemory⟩
      · rw [Engine.place_of_idle hidle] at hnext
        cases hnext
      · exact hmemory
  | cons next stay ih =>
      intro before after call hsplit hplace hbeyond hstay hnext
      have hthere := hstay next (List.mem_cons_self ..)
      have hfirst : next.found.context.memory = call.found.context.memory := by
        rcases h.returns hs hcap hback hsplit hplace hbeyond
          with ⟨-, hidle⟩ | ⟨-, -, hmemory⟩
        · have hidle : next.found.active = none := hidle
          rw [Engine.place_of_idle hidle] at hthere
          cases hthere
        · exact hmemory
      have hsplit : calls = (before ++ [call]) ++ next :: (stay ++ after) := by
        rw [hsplit, List.append_assoc]
        rfl
      have hmore : cap ≤ countedInStay d key (before ++ [call]) := by
        rw [countedInStay_snoc hplace]
        split <;> omega
      exact (ih (before ++ [call]) after next hsplit hthere hmore
        (fun other hother => hstay other (List.mem_cons_of_mem _ hother))
        hnext).trans hfirst

-- =================================================================== runs

/-- How a cap is kept at a call that found the engine at its state. Before the
call some inputs were counted in the stay (`countedInStay`). As long as they
are fewer than the cap, or where there is no cap, the transitions and the
handler of the state decide on an input; from then on the target of the cap is
followed, which ends the stay if it leads elsewhere. If it leads back, only a
reset or an exit phrase ends the stay, and until then what is remembered stays
as it is. -/
structure KeepsCap (d : Definition) (key : String) (s : State)
    (before : List Call) (call : Call) (after : List Call)
    (last : Engine Hook) : Prop where
  ordinary : ∀ text intent, call.operation = .handle text intent →
    d.matchesExitPhrase text = false →
    (∀ cap, s.turnCap = some cap → countedInStay d key before < cap) →
    ∃ a, call.found.active = some a
      ∧ call.found.plan text intent = call.found.ordinary a s intent
  redirected : ∀ text intent cap, call.operation = .handle text intent →
    d.matchesExitPhrase text = false → s.turnCap = some cap →
    cap ≤ countedInStay d key before →
    ∃ a, call.found.active = some a
      ∧ call.found.plan text intent
        = (call.found.redirected a s).after (Engine.capEntry s cap)
      ∧ (call.found.plan text intent).course.hook? = none
  ends : ∀ text intent cap, call.operation = .handle text intent →
    d.matchesExitPhrase text = false → s.turnCap = some cap →
    cap ≤ countedInStay d key before →
    s.maxTurnsTarget.LeadsSomewhere → ¬ s.maxTurnsTarget.LeadsTo key →
    (foundNext after last).place ≠ some (d.id, some key)
  returns : ∀ cap, s.turnCap = some cap → s.maxTurnsTarget.LeadsTo key →
    cap ≤ countedInStay d key before →
    ((foundNext after last).place = some (d.id, some key)
      ↔ ¬ call.BreaksOff d)
  remembers : ∀ cap, s.turnCap = some cap → s.maxTurnsTarget.LeadsTo key →
    cap ≤ countedInStay d key before →
    ∀ stay rest, after = stay ++ rest →
      (∀ other ∈ stay, other.found.place = some (d.id, some key)) →
      (foundNext rest last).place = some (d.id, some key) →
      (foundNext rest last).context.memory = call.found.context.memory

theorem Chronicle.keepsCap (h : Chronicle d calls last)
    (hs : d.states.get? key = some s) {before after : List Call}
    {call : Call} (hsplit : calls = before ++ call :: after)
    (hplace : call.found.place = some (d.id, some key)) :
    KeepsCap d key s before call after last := by
  obtain ⟨a, ha, hturns⟩ := h.at hs hsplit hplace
  refine ⟨?_, ?_, ?_, ?_, ?_⟩
  · intro text intent _ hphrase hbelow
    rw [← hturns] at hbelow
    exact ⟨a, ha.active, ha.plan_ordinary hphrase hbelow intent⟩
  · intro text intent cap _ hphrase hcap hbeyond
    rw [← hturns] at hbeyond
    have hplan := ha.plan_redirected hphrase hcap hbeyond intent
    refine ⟨a, ha.active, hplan, ?_⟩
    rw [hplan]
    exact Engine.redirected_hook ..
  · intro text intent cap hop hphrase hcap hbeyond htarget haway
    exact h.ends hs hcap htarget haway hsplit hplace hop hphrase hbeyond
  · intro cap hcap hback hbeyond
    rcases h.returns hs hcap hback hsplit hplace hbeyond
      with ⟨hbreaks, hidle⟩ | ⟨hgoes, hthere, -⟩
    · rw [Engine.place_of_idle hidle]
      exact ⟨nofun, fun hgoes => absurd hbreaks hgoes⟩
    · exact ⟨fun _ => hgoes, fun _ => hthere⟩
  · intro cap hcap hback hbeyond stay rest hafter hstay hnext
    rw [hafter] at hsplit
    exact h.remembers hs hcap hback stay before rest call hsplit hplace
      hbeyond hstay hnext

/-- A run on a `Steady` stage, with a definition registered all the while, is a
`Chronicle`. -/
theorem runAll_chronicle (ops : List Operation) {st : Stage}
    (hops : ∀ op ∈ ops, op.Steady) (hst : st.Steady)
    (hidle : st.engine.active = none) :
    ∃ calls, (runAll ops st).2.journal = st.journal ++ calls
      ∧ calls.map Call.operation = ops
      ∧ calls.map Call.result = (runAll ops st).1
      ∧ ∀ d : Definition,
        (∀ call ∈ startedAll calls,
          call.found.registry.get? d.id = some d) →
        Chronicle d (startedAll calls) (runAll ops st).2.engine := by
  obtain ⟨calls, hjournal, hoperations, hresults, hfollows, -⟩ :=
    runAll_follows ops (fun op hop => (hops op hop).calm.direct) hst.direct
  obtain ⟨walked, hjournal', -, -, hwalks⟩ :=
    runAll_walks ops (fun op hop => (hops op hop).spares) hst.sparing
  obtain ⟨started, hjournal'', hsteady⟩ :=
    (runAll_starts (fun _ hop => hop.calm.direct) ops hops hst.keeps
      hst.reacts).journal
  -- the journal is one and the same
  obtain rfl : walked = calls :=
    List.append_cancel_left (hjournal'.symm.trans hjournal)
  obtain rfl : started = walked :=
    List.append_cancel_left (hjournal''.symm.trans hjournal)
  refine ⟨started, hjournal, hoperations, hresults, ?_⟩
  intro d hregistered
  have hstart : Tallied [] st.engine.standing := by
    unfold Engine.standing
    rw [hidle]
    exact nofun
  obtain ⟨hlast, hmoments⟩ := hwalks.tallied hstart
  refine ⟨?_, ?_, hregistered⟩
  · intro before after hsplit
    cases after with
    | nil =>
        rw [List.append_nil] at hsplit
        rw [← hsplit]
        exact tallied_standing.1 hlast
    | cons call after => exact (hmoments before call after hsplit).1
  · exact hfollows.passes (fun call hcall => (hsteady call hcall).calm)
      hst.tame hst.clear

/-- Turn caps are enforced exactly. Wherever handlers keep to their contexts,
leave proper drafts and spare the counters (`Stage.Steady`), and a definition
stays registered, a call that finds the engine at one of its states `KeepsCap`;
and if the target of the cap leads elsewhere, the turns in the state do not
exceed the cap at any moment. -/
theorem runAll_keepsCap (d : Definition) (key : String) (s : State)
    (hs : d.states.get? key = some s) (ops : List Operation) (st : Stage)
    (hops : ∀ op ∈ ops, op.Steady) (hst : st.Steady)
    (hidle : st.engine.active = none) :
    ∃ calls, (runAll ops st).2.journal = st.journal ++ calls
      ∧ calls.map Call.operation = ops
      ∧ calls.map Call.result = (runAll ops st).1
      ∧ ((∀ call ∈ startedAll calls,
          call.found.registry.get? d.id = some d) →
        (∀ before call after, startedAll calls = before ++ call :: after →
          call.found.place = some (d.id, some key) →
          KeepsCap d key s before call after (runAll ops st).2.engine)
        ∧ ∀ cap, s.turnCap = some cap → 0 < cap →
          s.maxTurnsTarget.LeadsSomewhere →
          ¬ s.maxTurnsTarget.LeadsTo key →
          ∀ before after, startedAll calls = before ++ after →
            ∀ a, (foundNext after (runAll ops st).2.engine).active = some a →
              a.workflow = d.id → a.state = some key →
              a.context.stateTurnCount ≤ cap) := by
  obtain ⟨calls, hjournal, hoperations, hresults, hchronicle⟩ :=
    runAll_chronicle ops hops hst hidle
  refine ⟨calls, hjournal, hoperations, hresults, ?_⟩
  intro hregistered
  have h := hchronicle d hregistered
  refine ⟨fun before call after hsplit hplace => h.keepsCap hs hsplit hplace,
    ?_⟩
  intro cap hcap hpos htarget haway before after hsplit a hactive hworkflow
    hstate
  have hplace : (foundNext after (runAll ops st).2.engine).place
      = some (d.id, some key) := by
    rw [Engine.place_of_active hactive, hworkflow, hstate]
  rw [h.stateTurns hsplit hactive hplace]
  exact h.bounded hs hcap hpos htarget haway before after hsplit hplace

/-- On a stage that starts the workflow again as soon as it has ended, the
question is put three times over; the fourth answer that is no answer ends the
stay, and another one begins. -/
theorem runAll_keepsCap_eager :
    let ops : List Operation := [.handle "" "transcribe", .handle "one" "",
      .handle "two" "", .handle "three" "", .handle "four" ""]
    (startedAll (runAll ops eager).2.journal).map
        (fun call => (call.found.place, call.isCounted))
      = [(none, false), (some ("transcribe", some "confirm"), true),
        (some ("transcribe", some "confirm"), true),
        (some ("transcribe", some "confirm"), true),
        (some ("transcribe", some "confirm"), true), (none, false)]
      ∧ ∀ before call after,
        startedAll (runAll ops eager).2.journal = before ++ call :: after →
        call.found.place = some ("transcribe", some "confirm") →
        KeepsCap Builtins.transcribe "confirm" Builtins.confirmState before
          call after (runAll ops eager).2.engine := by
  intro ops
  have hops : ∀ op ∈ ops, op.isOwn = true ∧ op.brings = [] := by
    decide +kernel
  have hruns : ∀ l ∈ eager.listeners.values, ∀ r ∈ l.reactions,
      ∀ op ∈ r.runs, op.isOwn = true ∧ op.brings = [] := by decide +kernel
  have hsteady : ∀ op ∈ ops, op.Steady := fun op hop =>
    .of_own (hops op hop).1 (hops op hop).2
  have heager : eager.Steady := by
    refine ⟨nofun, nofun, ?_, rfl, nofun⟩
    intro l hl r hr op hop
    obtain ⟨hown, hbrings⟩ := hruns l hl r hr op hop
    exact .of_own hown hbrings
  have hregistered : ∀ call ∈ startedAll (runAll ops eager).2.journal,
      call.found.registry.get? Builtins.transcribe.id
        = some Builtins.transcribe := by decide +kernel
  have hstated : Builtins.transcribe.states.get? "confirm"
      = some Builtins.confirmState := by decide +kernel
  obtain ⟨calls, hjournal, -, -, hkeeps⟩ :=
    runAll_keepsCap Builtins.transcribe "confirm" Builtins.confirmState
      hstated ops eager hsteady heager rfl
  refine ⟨by decide +kernel, ?_⟩
  have hjournal : (runAll ops eager).2.journal = calls := hjournal
  rw [hjournal] at hregistered ⊢
  exact (hkeeps hregistered).1

-- ============================================================= overstaying

/-- On `numberedStage` the handler keeps to its context, returns and spares the
counters, and the target of the cap leads out. Yet the second input that is
counted does not end the stay, for the number in the buffer cannot stand in the
exit message. -/
theorem number_overstays :
    let s := numberedStage
    let ops : List Operation :=
      [.handle "" "start", .handle "one" "", .handle "two" ""]
    (∀ p ∈ s.programs, p.keepsToContext = true ∧ p.Spares
        ∧ ∀ change, .touch change ∈ p.instructions →
          ∀ text d, ∃ d', change text d = .ok d')
      ∧ (∀ l ∈ s.listeners.values, l.isPassive = true)
      ∧ numbered.states.get? "a" = some numberedState
      ∧ numberedState.turnCap = some 1
      ∧ numberedState.maxTurnsTarget = .exit
      ∧ countedInStay numbered "a" (startedAll (runAll ops s).2.journal) = 2
      ∧ (runAll ops s).2.engine.place = some ("numbered", some "a")
      ∧ (runAll ops s).2.engine.context.stateTurnCount = 2 := by
  refine ⟨?_, by decide +kernel, by decide +kernel, by decide +kernel, rfl,
    by decide +kernel, by decide +kernel, by decide +kernel⟩
  intro p hp
  obtain rfl := List.mem_singleton.1 hp
  refine ⟨rfl, ?_, numbering_returns⟩
  simp only [numbering, Program.Spares, AllSpare, Instruction.Spares]
  exact ⟨fun _ _ _ h => by cases h; exact ⟨rfl, rfl⟩, trivial⟩

end Colloquy.Script
