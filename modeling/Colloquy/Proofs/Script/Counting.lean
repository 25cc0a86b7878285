/-
What the counts of turns mean. In any run the two counts of a context are
numbers of inputs: of those that were counted since the workflow was
activated, and of those among them that were counted since the active state
was last entered from elsewhere (`runAll_counts`).

# The calls that are meant

Calls are taken in the order in which they started. A workflow is activated
at an idle engine only, so the calls since its activation are the last ones
up to now that found the engine active (`sinceActivation`). The active
state changes by a call, so the calls since the change are the last ones
that found the engine where it is now (`sinceArrival`); a state that is
entered from itself changes nothing about where the engine is.

The invariant goes along the walk of the running workflow. One call adds
itself to both stretches, or breaks them off, and counts or does not
count; `Engine.plan_counted` and its kin say that the counts of the
context do the same. A workflow that is left says how often it was
counted: with the last input if a target led out, without it otherwise
(`Parts`).
-/
import Colloquy.Proofs.Script.Pace
import Mathlib.Data.List.DropRight

namespace Colloquy.Script

-- ============================================================== stretches

/-- Whether the call is an input that `Engine.counts`. -/
def Call.isCounted (call : Call) : Bool :=
  match call.operation with
  | .handle text _ => call.found.counts text
  | _ => false

/-- How many of the calls are `isCounted`. -/
def counted (calls : List Call) : Int := calls.countP Call.isCounted

/-- The last of the calls, as far back as they found the engine active. -/
def sinceActivation (calls : List Call) : List Call :=
  calls.rtakeWhile fun call => call.found.isActive

/-- The last of the calls, as far back as they found the engine at `place`. -/
def sinceArrival (place : String × Option String) (calls : List Call) :
    List Call :=
  calls.rtakeWhile fun call => call.found.place = some place

/-- The numbers `turns` and `stateTurns` are how many calls were counted
`sinceActivation`, and how many `sinceArrival` at the place. -/
structure Tally (calls : List Call) (place : String × Option String)
    (turns stateTurns : Int) : Prop where
  turns : turns = counted (sinceActivation calls)
  stateTurns : stateTurns = counted (sinceArrival place calls)

theorem counted_append (calls more : List Call) :
    counted (calls ++ more) = counted calls + counted more := by
  unfold counted
  rw [List.countP_append]
  omega

theorem counted_singleton (call : Call) :
    counted [call] = if call.isCounted then 1 else 0 := by
  unfold counted
  rw [List.countP_singleton]
  split <;> rfl

theorem counted_nonneg (calls : List Call) : 0 ≤ counted calls :=
  Int.natCast_nonneg _

theorem sinceActivation_snoc (calls : List Call) (call : Call) :
    sinceActivation (calls ++ [call])
      = if call.found.isActive then sinceActivation calls ++ [call] else [] :=
  List.rtakeWhile_concat ..

theorem sinceArrival_snoc (place : String × Option String)
    (calls : List Call) (call : Call) :
    sinceArrival place (calls ++ [call])
      = if call.found.place = some place
        then sinceArrival place calls ++ [call] else [] := by
  unfold sinceArrival
  rw [List.rtakeWhile_concat]
  simp only [decide_eq_true_eq]

/-- What was counted `sinceArrival` was counted `sinceActivation`. -/
theorem counted_sinceArrival_le (place : String × Option String)
    (calls : List Call) :
    counted (sinceArrival place calls) ≤ counted (sinceActivation calls) := by
  induction calls using List.reverseRecOn with
  | nil => exact Int.le_refl 0
  | append_singleton calls call ih =>
      rw [sinceArrival_snoc, sinceActivation_snoc]
      by_cases hplace : call.found.place = some place
      · have hactive : call.found.isActive = true := by
          unfold Engine.place at hplace
          unfold Engine.isActive
          rw [← Option.isSome_map, hplace]
          rfl
        rw [if_pos hplace, if_pos hactive, counted_append, counted_append]
        omega
      · rw [if_neg hplace]
        exact counted_nonneg _

/-- In a `Tally`, the turns in the state are no more than the turns, and not
negative. -/
theorem Tally.ordered {calls : List Call} {place : String × Option String}
    {turns stateTurns : Int} (h : Tally calls place turns stateTurns) :
    0 ≤ stateTurns ∧ stateTurns ≤ turns := by
  rw [h.turns, h.stateTurns]
  exact ⟨counted_nonneg _, counted_sinceArrival_le place calls⟩

-- ============================================================== one call

/-- The counters of the running activation are a `Tally` of the calls. -/
def Tallies (calls : List Call) (e : Engine Hook) : Prop :=
  ∀ a, e.active = some a →
    Tally calls (a.workflow, a.state) a.context.turnCount
      a.context.stateTurnCount

/-- The same, of a `Standing`. -/
def Tallied (calls : List Call) (p : Option Standing) : Prop :=
  ∀ st, p = some st → Tally calls st.place st.turns st.stateTurns

theorem tallied_standing {calls : List Call} {e : Engine Hook} :
    Tallied calls e.standing ↔ Tallies calls e := by
  unfold Tallied Tallies Engine.standing
  constructor
  · intro h a ha
    rw [ha] at h
    exact h a.standing rfl
  · intro h st hst
    obtain ⟨a, ha, rfl⟩ := Option.map_eq_some_iff.1 hst
    exact h a ha

/-- A call that is not counted and leads nowhere keeps the `Tallies`. -/
theorem Tallies.stays {calls : List Call} {call : Call}
    (h : Tallies calls call.found) (hcounted : call.isCounted = false) :
    Tallies (calls ++ [call]) call.found := by
  intro a ha
  obtain ⟨hturns, hstate⟩ := h a ha
  have hzero : counted [call] = 0 := by
    rw [counted_singleton, hcounted]
    rfl
  constructor
  · rw [sinceActivation_snoc, if_pos (Engine.isActive_of_active ha),
      counted_append, hzero]
    omega
  · rw [sinceArrival_snoc, if_pos (Engine.place_of_active ha),
      counted_append, hzero]
    omega

/-- An input that `isCounted` adds itself to the turns, and to the turns in the
state that it leads to if the engine is there already. -/
theorem Tallies.counts {calls : List Call} {call : Call}
    {a b : Activation} (h : Tallies calls call.found)
    (ha : call.found.active = some a) (hcounted : call.isCounted = true)
    (hmoves : a.counted.Moves b) (hworkflow : b.workflow = a.workflow) :
    Tally (calls ++ [call]) (b.workflow, b.state) b.context.turnCount
      b.context.stateTurnCount := by
  obtain ⟨hturns, hstate⟩ := h a ha
  have hbturns : b.context.turnCount = a.context.turnCount + 1 :=
    hmoves.turns
  have hbstate : b.context.stateTurnCount
      = if b.state = a.state then a.context.stateTurnCount + 1 else 0 :=
    hmoves.stateTurns
  have hone : counted [call] = 1 := by
    rw [counted_singleton, hcounted]
    rfl
  constructor
  · rw [sinceActivation_snoc, if_pos (Engine.isActive_of_active ha),
      counted_append, hone]
    omega
  · rw [sinceArrival_snoc, Engine.place_of_active ha, hbstate, hworkflow]
    by_cases hsame : b.state = a.state
    · rw [hsame, if_pos rfl, if_pos rfl, counted_append, hone]
      omega
    · have hother : some (a.workflow, a.state) ≠ some (a.workflow, b.state) :=
        fun heq => hsame (Prod.mk.inj (Option.some.inj heq)).2.symm
      rw [if_neg hsame, if_neg hother]
      rfl

/-- The plan of an input keeps the `Tallies`. -/
theorem Tallies.moves {calls : List Call} {call : Call}
    (h : Tallies calls call.found) {text intent : String}
    (hop : call.operation = .handle text intent) :
    Tallies (calls ++ [call]) (call.found.plan text intent).engine := by
  have hcounts : call.isCounted = call.found.counts text := by
    unfold Call.isCounted
    rw [hop]
  cases ha : call.found.active with
  | none =>
      -- a workflow that starts has no turns yet
      intro b hb
      obtain ⟨hturns, hstate⟩ :=
        Engine.plan_starting ha text intent (.inl hb)
      constructor
      · rw [sinceActivation_snoc, Engine.isActive_of_idle ha]
        exact hturns
      · rw [sinceArrival_snoc, Engine.place_of_idle ha]
        exact hstate
  | some a =>
      cases hcounted : call.found.counts text with
      | true =>
          intro b hb
          obtain ⟨c, hac, heq⟩ :=
            (Engine.plan_continues ha text intent).engine
          have hcb : c = b := by
            rw [heq] at hb
            exact Option.some.inj hb
          exact h.counts ha (hcounts.trans hcounted)
            ((Engine.plan_counted ha hcounted intent).running b hb)
            (hcb ▸ hac.workflow)
      | false =>
          rw [(Engine.plan_uncounted ha hcounted intent).1]
          exact h.stays (hcounts.trans hcounted)

/-- One call keeps the `Tallies`. -/
theorem Call.Leads.tallied {call : Call} {q : Option Standing}
    (hleads : call.Leads q) {calls : List Call}
    (h : Tallies calls call.found) : Tallied (calls ++ [call]) q := by
  cases hleads with
  | moves hop => exact tallied_standing.2 (h.moves hop)
  | ends => exact nofun
  | resets => exact nofun
  | stays hop =>
      refine tallied_standing.2 (h.stays ?_)
      unfold Call.isCounted
      cases hoperation : call.operation with
      | handle text intent => exact absurd hoperation (hop text intent)
      | _ => rfl

-- =============================================================== endings

/-- With which counters an input ends a workflow. A workflow whose initial
state is missing ends before its first turn. One that an exit phrase ends, or
whose active state is missing, ends with the counters it had. One that ends by
a target that the active state decides on has counted the input as well. -/
inductive Parts (e : Engine Hook) (text intent : String)
    (turns stateTurns : Int) : Prop
  | unstarted (hidle : e.active = none) (hturns : turns = 0)
      (hstateTurns : stateTurns = 0)
  | uncounted {a : Activation} (hactive : e.active = some a)
      (hreason : (e.definition? a).any (·.matchesExitPhrase text) = true
        ∨ e.state? a = none)
      (hturns : turns = a.context.turnCount)
      (hstateTurns : stateTurns = a.context.stateTurnCount)
  | followed {a : Activation} {s : State} {t : Target}
      (hactive : e.active = some a)
      (hphrase : (e.definition? a).any (·.matchesExitPhrase text) = false)
      (hstate : e.state? a = some s)
      (htarget : (s.decide (a.context.stateTurnCount + 1) intent).target?
        = some t)
      (hturns : turns = a.context.turnCount + 1)
      (hstateTurns : stateTurns = a.context.stateTurnCount + 1)

/-- A plan that leaves an activation leaves it with counters as `Parts` says.
-/
theorem parts_of_leave {e : Engine Hook} {text intent template : String}
    {b : Activation} (h : (e.plan text intent).course = .leave b template) :
    Parts e text intent b.context.turnCount b.context.stateTurnCount := by
  cases ha : e.active with
  | none =>
      obtain ⟨hturns, hstate⟩ :=
        Engine.plan_starting ha text intent (.inr ⟨template, h⟩)
      exact .unstarted ha hturns hstate
  | some a =>
      cases hcounted : e.counts text with
      | true =>
          obtain ⟨s, t, hs, htarget⟩ := Engine.plan_follows ha hcounted h
          have hb :=
            (Engine.plan_counted ha hcounted intent).leaving b template h
          have hphrase : (e.definition? a).any (·.matchesExitPhrase text)
              = false := by
            rw [Engine.counts, ha, Option.any_some,
              Bool.and_eq_true] at hcounted
            simpa using hcounted.2
          rw [hb]
          exact .followed ha hphrase hs htarget rfl rfl
      | false =>
          obtain ⟨-, template', hleave⟩ :=
            Engine.plan_uncounted ha hcounted intent
          have hb : b = a := by
            rw [h] at hleave
            cases hleave
            rfl
          rw [Engine.counts, ha, Option.any_some] at hcounted
          have hreason : (e.definition? a).any (·.matchesExitPhrase text)
              = true ∨ e.state? a = none := by
            cases hs : e.state? a with
            | none => exact .inr rfl
            | some s =>
                rw [hs] at hcounted
                exact .inl (by simpa using hcounted)
          rw [hb]
          exact .uncounted ha hreason rfl rfl

/-- An input that returns an `exitWorkflow` carries counters as `Parts` says.
-/
theorem Call.Leads.parts {call : Call} {q : Option Standing}
    (hleads : call.Leads q) {text intent workflow message : String}
    {context : Context} {stray : Option Stray}
    (hop : call.operation = .handle text intent)
    (hresult : call.result = .ok (.outcome
      (.done (.exitWorkflow workflow message context)) stray)) :
    Parts call.found text intent context.turnCount
      context.stateTurnCount := by
  cases hleads with
  | moves hop' hother =>
      exact absurd hresult (hother workflow message context stray)
  | ends hop' hcourse hresult' =>
      cases hop.symm.trans hop'
      cases hresult.symm.trans hresult'
      exact parts_of_leave hcourse
  | resets hop' => cases hop.symm.trans hop'
  | stays hother => exact absurd hop (hother text intent)

-- =================================================================== runs

/-- Along a walk the `Tallies` are kept. -/
theorem Walks.tallied {p q : Option Standing} {calls : List Call}
    (h : Walks p calls q) {earlier : List Call} (hp : Tallied earlier p) :
    Tallied (earlier ++ calls) q
      ∧ ∀ before call after, calls = before ++ call :: after →
          Tallies (earlier ++ before) call.found
            ∧ ∃ p', call.Leads p' := by
  induction h generalizing earlier with
  | done =>
      rw [List.append_nil]
      exact ⟨hp, fun before call after hsplit =>
        absurd hsplit (by simp)⟩
  | @step p q r call calls hfound hleads rest ih =>
      have htallies : Tallies earlier call.found := by
        rw [← hfound] at hp
        exact tallied_standing.1 hp
      obtain ⟨hlast, hmoments⟩ := ih (hleads.tallied htallies)
      rw [List.append_assoc] at hlast
      refine ⟨hlast, ?_⟩
      intro before call' after hsplit
      cases before with
      | nil =>
          cases hsplit
          rw [List.append_nil]
          exact ⟨htallies, q, hleads⟩
      | cons first before =>
          obtain ⟨hhead, htail⟩ := List.cons.inj hsplit
          subst hhead
          have hmoment := hmoments before call' after htail
          rw [List.append_assoc] at hmoment
          exact hmoment

/-- The counts of turns mean what they say. Whatever runs at a stage whose
handlers spare the counts, at every moment while a workflow is running its
count of turns is the number of inputs that were counted since the workflow
was activated, and its count of turns in the active state is the number of
those that were counted since the state was last entered from elsewhere; so
the latter is never negative, and never more than the former. An action
that ends a workflow tells the same two numbers, and counts the input that
ended it exactly if a target led out. -/
theorem runAll_counts (ops : List Operation) (s : Stage)
    (hops : ∀ op ∈ ops, op.Spares) (hs : s.Spares)
    (hidle : s.engine.active = none) :
    ∃ calls, (runAll ops s).2.journal = s.journal ++ calls
      ∧ calls.map Call.operation = ops
      ∧ calls.map Call.result = (runAll ops s).1
      ∧ Tallies (startedAll calls) (runAll ops s).2.engine
      ∧ ∀ before call after, startedAll calls = before ++ call :: after →
          Tallies before call.found
          ∧ (∀ a, call.found.active = some a →
              0 ≤ a.context.stateTurnCount
                ∧ a.context.stateTurnCount ≤ a.context.turnCount)
          ∧ ∀ text intent workflow message context stray,
              call.operation = .handle text intent →
              call.result = .ok (.outcome
                (.done (.exitWorkflow workflow message context)) stray) →
              Parts call.found text intent context.turnCount
                context.stateTurnCount := by
  obtain ⟨calls, hjournal, hoperations, hresults, hwalks⟩ :=
    runAll_walks ops hops hs
  have hstart : Tallied [] s.engine.standing := by
    unfold Engine.standing
    rw [hidle]
    exact nofun
  obtain ⟨hlast, hmoments⟩ := hwalks.tallied hstart
  refine ⟨calls, hjournal, hoperations, hresults,
    tallied_standing.1 hlast, ?_⟩
  intro before call after hsplit
  obtain ⟨htallies, q, hleads⟩ := hmoments before call after hsplit
  exact ⟨htallies, fun a ha => (htallies a ha).ordered,
    fun text intent workflow message context stray hop hresult =>
      hleads.parts hop hresult⟩

/-- A program that gives an input back to the engine before it is done with it,
once. -/
def relapsing : Program := .mk [.operate (.handle "again" "")] 1

/-- On a stage that starts the workflow again as soon as it has ended, and with
`relapsing` as its handler, six inputs are started; three of them are counted.
-/
theorem runAll_counts_relapsing :
    let ops : List Operation := [.registerHandler "accumulate" relapsing,
      .handle "" "transcribe", .handle "yes" "confirm", .handle "one" "",
      .handle "Stop transcribe" ""]
    ∃ calls, (runAll ops eager).2.journal = calls
      ∧ (startedAll calls).map Call.isCounted
        = [false, false, true, true, true, false, false]
      ∧ Tallies (startedAll calls) (runAll ops eager).2.engine
      ∧ ∀ before call after, startedAll calls = before ++ call :: after →
          Tallies before call.found := by
  intro ops
  have hrelapsing : relapsing.Spares := by
    simp only [relapsing, Program.Spares, AllSpare, Instruction.Spares,
      Operation.Spares, Operation.isOwn, and_self]
  have hops : ∀ op ∈ ops, op.Spares :=
    List.forall_mem_cons.2 ⟨hrelapsing, List.forall_mem_cons.2 ⟨rfl,
      List.forall_mem_cons.2 ⟨rfl, List.forall_mem_cons.2 ⟨rfl,
        List.forall_mem_singleton.2 rfl⟩⟩⟩⟩
  have heager : eager.Spares := by
    refine ⟨by simp [eager], ?_⟩
    have hruns : ∀ l ∈ eager.listeners.values, ∀ r ∈ l.reactions,
        ∀ op ∈ r.runs, op.isOwn = true ∧ op.brings = [] := by
      decide +kernel
    intro l hl r hr op hop
    obtain ⟨hown, hbrings⟩ := hruns l hl r hr op hop
    exact Operation.Spares.of_own hown hbrings
  obtain ⟨calls, hjournal, -, -, hlast, hmoments⟩ :=
    runAll_counts ops eager hops heager rfl
  refine ⟨calls, hjournal, ?_, hlast, fun before call after hsplit =>
    (hmoments before call after hsplit).1⟩
  have hcounted : (startedAll (runAll ops eager).2.journal).map
      Call.isCounted = [false, false, true, true, true, false, false] := by
    decide +kernel
  rw [hjournal] at hcounted
  exact hcounted

end Colloquy.Script
