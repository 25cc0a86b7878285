/-
Exit phrases anywhere in a text. An exit phrase that is self-contained ends
its workflow whatever stands around it, and no other phrase does so
(`closes_everywhere_iff`). The input is not counted; the exit message is made
of what is remembered, the action names the workflow, and the engine is idle
before anyone hears of it. It is idle still when the input returns, unless a
listener starts a workflow in between.

The message cannot be made where it needs the text of a value without one: of
a stray in the buffer, or of something that is remembered (`obstacle?`). That
is the only thing that keeps the workflow from ending.
-/
import Colloquy.Proofs.Script.Leaving
import Colloquy.Proofs.Script.Naming
import Colloquy.Proofs.Text.Casing

namespace Colloquy

-- ============================================================== definitions

/-- A phrase of the definition that is self-contained is matched in every text
that holds it. -/
theorem Definition.matchesExitPhrase_of_isSelfContained {d : Definition}
    {phrase before : String} (hmem : phrase ∈ d.exitPhrases)
    (hphrase : Text.IsText phrase.toList)
    (h : Text.isSelfContained phrase.toList = true)
    (hbefore : Text.IsText before.toList) (after : String) :
    d.matchesExitPhrase (before ++ phrase ++ after) = true := by
  unfold Definition.matchesExitPhrase
  refine List.any_eq_true.2 ⟨phrase, hmem, ?_⟩
  rw [String.toList_append, String.toList_append]
  exact Text.occursIn_of_isSelfContained hphrase h hbefore after.toList

/-- A workflow with one state and one exit phrase. -/
def closedBy (phrase : String) : Definition where
  id := "keeper"
  trigger := "start"
  initial := "a"
  exitPhrases := [phrase]
  exitMessage := "Bye, {{buffer}}."
  states := .ofList [("a", { id := "a", onEnter := "Here." })]

/-- A phrase that `closedBy phrase` matches in every text that holds it is
self-contained. -/
theorem isSelfContained_of_matchesExitPhrase {phrase : String}
    (hphrase : Text.IsText phrase.toList)
    (h : ∀ before after : String, Text.IsText before.toList →
      Text.IsText after.toList →
      (closedBy phrase).matchesExitPhrase (before ++ phrase ++ after) = true) :
    Text.isSelfContained phrase.toList = true := by
  refine Text.isSelfContained_of_occursIn hphrase fun before after hb ha => ?_
  have hmatches := h (.ofList before) (.ofList after)
    (by rwa [String.toList_ofList]) (by rwa [String.toList_ofList])
  unfold Definition.matchesExitPhrase at hmatches
  obtain ⟨phrase', hmem, hoccurs⟩ := List.any_eq_true.1 hmatches
  rw [List.mem_singleton.1 hmem, String.toList_append, String.toList_append,
    String.toList_ofList, String.toList_ofList] at hoccurs
  exact hoccurs

namespace Script

-- =============================================================== idle still

/-- After an input that `LeavesWith` an exit the engine is idle, if listeners
leave it alone. -/
theorem Stage.LeavesWith.idle {s : Stage}
    {text intent workflow message : String} {context : Context}
    {stray : Option Stray}
    (h : s.LeavesWith text intent workflow message context stray)
    (hs : s.LeftAlone) :
    (run (.handle text intent) s).2.engine.active = none := by
  obtain ⟨t, hidle, -, haudience, hafter⟩ := h.told
  have ht : t.LeftAlone := by
    unfold Stage.LeftAlone Stage.Reacts
    rw [show t.listeners = s.listeners from
      congrArg Audience.listeners haudience]
    exact hs
  have hrests := dispatch_rests run_rests
    (.exitWorkflow workflow message context) stray ht
  have hplace : (run (.handle text intent) s).2.place = t.place :=
    (congrArg Stage.place hafter).trans hrests.place
  refine Engine.active_of_place_eq_none (hplace.trans ?_)
  unfold Stage.place Engine.place
  rw [hidle]
  rfl

-- ============================================================= exit phrases

/-- The input closes the running activation by an exit phrase of `d`: it
returns the exit, the engine is idle with nothing else seen or heard before
listeners are told of it, and it stays idle if they leave it alone. -/
structure Stage.Closes (s : Stage) (text intent : String) (a : Activation)
    (d : Definition) : Prop where
  result : (run (.handle text intent) s).1
    = .ok (.outcome (.done (.exitWorkflow a.workflow
      (Template.render d.exitMessage a.context) a.context))
      (s.strays.lookup a.serial))
  told : ∃ t : Stage, t.engine.active = none
    ∧ t.audience = s.afresh.audience
    ∧ (run (.handle text intent) s).2.afresh
      = (dispatch run (.exitWorkflow a.workflow
        (Template.render d.exitMessage a.context) a.context)
        (s.strays.lookup a.serial) t).2.afresh
  idle : s.LeftAlone → (run (.handle text intent) s).2.engine.active = none

/-- A text that `matchesExitPhrase` of the running definition `Closes` it,
unless there is an `obstacle?` to the exit message. -/
theorem Stage.closes {s : Stage} {a : Activation} {d : Definition}
    {text : String} (hactive : s.engine.active = some a)
    (hd : s.engine.definition? a = some d)
    (hmatches : d.matchesExitPhrase text = true)
    (hclear : ∀ stray, s.strays.lookup a.serial = some stray →
      obstacle? stray a.context d.exitMessage = none) (intent : String) :
    s.Closes text intent a d := by
  have hends : s.engine.endsBy a text = true := by
    unfold Engine.endsBy
    rw [hd]
    exact hmatches
  have hfarewell : s.engine.farewell a.workflow none = d.exitMessage := by
    unfold Engine.farewell
    rw [show s.engine.registry.get? a.workflow = some d from hd]
    rfl
  rw [← hfarewell] at hclear
  have hway : s.engine.WayOut text intent a none := .phrase hactive hends
  have hresult := run_handle_unobstructed hway hclear
  rw [hfarewell] at hresult
  have hleaves := Stage.leavesWith hresult
  obtain ⟨t, hidle, -, htold⟩ := hleaves.told
  exact ⟨hresult, ⟨t, hidle, htold⟩, hleaves.idle⟩

/-- An exit phrase ends its workflow wherever it stands, just if it is
self-contained. Then every definition that has it matches it in every text that
holds it, and such a text `Closes` the workflow that is running, whatever the
intent and whatever has happened before, as long as the exit message can be
made. -/
theorem closes_everywhere_iff (phrase : String)
    (hphrase : Text.IsText phrase.toList) :
    (Text.isSelfContained phrase.toList = true
      ↔ ∀ d : Definition, phrase ∈ d.exitPhrases →
        ∀ before after : String, Text.IsText before.toList →
          Text.IsText after.toList →
          d.matchesExitPhrase (before ++ phrase ++ after) = true)
    ∧ (Text.isSelfContained phrase.toList = true →
      ∀ (s : Stage) (a : Activation) (d : Definition),
        s.engine.active = some a → s.engine.definition? a = some d →
        phrase ∈ d.exitPhrases →
        (∀ stray, s.strays.lookup a.serial = some stray →
          obstacle? stray a.context d.exitMessage = none) →
        ∀ before after : String, Text.IsText before.toList →
          Text.IsText after.toList → ∀ intent,
          s.Closes (before ++ phrase ++ after) intent a d) := by
  refine ⟨⟨fun h d hmem before after hbefore _ => ?_, fun h => ?_⟩,
    fun h s a d hactive hd hmem hclear before after hbefore _ intent => ?_⟩
  · exact Definition.matchesExitPhrase_of_isSelfContained hmem hphrase h
      hbefore after
  · exact isSelfContained_of_matchesExitPhrase hphrase
      (h (closedBy phrase) (List.mem_singleton.2 rfl))
  · exact Stage.closes hactive hd
      (Definition.matchesExitPhrase_of_isSelfContained hmem hphrase h hbefore
        after) hclear intent

/-- A stage where `closedBy phrase` is running, with a text in its buffer. -/
def closing (phrase : String) : Stage where
  engine := {
    registry := ({} : Registry).register (closedBy phrase)
    active := some {
      serial := 0
      workflow := "keeper"
      state := some "a"
      context := { buffer := "Ada" } }
    activations := 1 }
  disk := { find := fun _ => .ok .device }

/-- A phrase with a capital sigma that ends a word in it, and not with the
phrase: the workflow ends, whatever stands around. -/
theorem closes_everywhere_iff_telos :
    let text := "Είπε: " ++ "ΤΟ ΤΈΛΟΣ, φίλε" ++ "ΣΑ "
    (closedBy "ΤΟ ΤΈΛΟΣ, φίλε").matchesExitPhrase text = true
      ∧ ∃ a, (closing "ΤΟ ΤΈΛΟΣ, φίλε").engine.active = some a
        ∧ (closing "ΤΟ ΤΈΛΟΣ, φίλε").Closes text "start" a
          (closedBy "ΤΟ ΤΈΛΟΣ, φίλε") := by
  have hphrase : Text.IsText "ΤΟ ΤΈΛΟΣ, φίλε".toList :=
    Text.isText_of_unmarked (by decide +kernel)
  have hbefore : Text.IsText "Είπε: ".toList :=
    Text.isText_of_unmarked (by decide +kernel)
  have hafter : Text.IsText "ΣΑ ".toList :=
    Text.isText_of_unmarked (by decide +kernel)
  have hcontained : Text.isSelfContained "ΤΟ ΤΈΛΟΣ, φίλε".toList = true := by
    decide +kernel
  obtain ⟨hiff, hcloses⟩ := closes_everywhere_iff "ΤΟ ΤΈΛΟΣ, φίλε" hphrase
  refine ⟨hiff.1 hcontained _ (List.mem_singleton.2 rfl) _ _ hbefore hafter,
    _, rfl, ?_⟩
  exact hcloses hcontained _ _ _ rfl rfl (List.mem_singleton.2 rfl)
    (fun _ hstray => by cases hstray) _ _ hbefore hafter "start"

/-- An exit phrase that opens with a blank is missed where nothing stands
before it, and one that closes with a sigma where a letter stands after it. -/
theorem phrase_missed :
    (closedBy " stop").matchesExitPhrase ("" ++ " stop" ++ "") = false
      ∧ (closedBy "ΟΔΟΣ").matchesExitPhrase ("" ++ "ΟΔΟΣ" ++ "Α") = false
      ∧ (run (.handle ("" ++ " stop" ++ "") "") (closing " stop")
          ).2.engine.isActive = true
      ∧ (run (.handle ("" ++ "ΟΔΟΣ" ++ "Α") "") (closing "ΟΔΟΣ")
          ).2.engine.isActive = true := by
  decide +kernel

end Script
end Colloquy
