/-
Checks that come out well. A check made of other checks accepts something
just if they do, and what it accepts is made of what they accept; so an
accepted result can be taken apart along the way it was checked. The other
way round, what is written member by member is accepted member by member
(`catalog_map`, `list_text`).
-/
import Colloquy.Checked
import Colloquy.Proofs.Catalog

namespace Colloquy

universe u v

variable {α β : Type u}

namespace Checked

-- ======================================================== taking apart

@[simp] theorem map_accepted (f : α → β) (a : α) :
    f <$> (accepted a : Checked α) = accepted (f a) := rfl

@[simp] theorem seq_accepted (f : α → β) (a : α) :
    (accepted f : Checked (α → β)) <*> accepted a = accepted (f a) := rfl

theorem map_eq_accepted {f : α → β} {c : Checked α} {b : β} :
    f <$> c = accepted b ↔ ∃ a, c = accepted a ∧ f a = b := by
  cases c with
  | accepted a => simp
  | refused issues =>
      constructor
      · intro h
        cases h
      · rintro ⟨a, h, -⟩
        cases h

theorem seq_eq_accepted {f : Checked (α → β)} {c : Checked α}
    {b : β} : f <*> c = accepted b
      ↔ ∃ g, f = accepted g ∧ ∃ a, c = accepted a ∧ g a = b := by
  constructor
  · intro h
    cases f with
    | accepted g =>
        cases c with
        | accepted a =>
            cases h
            exact ⟨g, rfl, a, rfl, rfl⟩
        | refused issues => cases h
    | refused issues =>
        cases c with
        | accepted a => cases h
        | refused more => cases h
  · rintro ⟨g, rfl, a, rfl, rfl⟩
    rfl

@[simp] theorem below_accepted (step : String) (a : α) :
    (accepted a).below step = accepted a := rfl

theorem below_eq_accepted {step : String} {c : Checked α} {a : α} :
    c.below step = accepted a ↔ c = accepted a := by
  cases c with
  | accepted b => rfl
  | refused issues => simp [below]

@[simp] theorem andThen_accepted {γ : Type v} (a : α)
    (next : α → Checked γ) : (accepted a).andThen next = next a := rfl

theorem andThen_eq_accepted {γ : Type v} {c : Checked α}
    {next : α → Checked γ} {b : γ} : c.andThen next = accepted b
      ↔ ∃ a, c = accepted a ∧ next a = accepted b := by
  cases c with
  | accepted a => simp
  | refused issues => simp [andThen]

theorem toExcept_eq_ok {title : String} {c : Checked α} {a : α} :
    c.toExcept title = .ok a ↔ c = accepted a := by
  cases c with
  | accepted b => simp [toExcept]
  | refused issues => simp [toExcept]

/-- Every entry that `each` accepts was accepted by `check` for some value. -/
theorem exists_of_each {check : Value → Checked α}
    {members : List (String × Value)} {entries : List (String × α)}
    (h : each check members = accepted entries) :
    ∀ entry ∈ entries, ∃ v, check v = accepted entry.2 := by
  induction members generalizing entries with
  | nil =>
      cases h
      exact nofun
  | cons member rest ih =>
      simp only [each, seq_eq_accepted, map_eq_accepted,
        below_eq_accepted] at h
      obtain ⟨f, ⟨a, ha, rfl⟩, more, hmore, rfl⟩ := h
      intro entry hentry
      rcases List.mem_cons.1 hentry with rfl | hentry
      · exact ⟨_, ha⟩
      · exact ih hmore entry hentry

/-- Every entry of a catalogue that `catalog` accepts was accepted by `check`
for some value. -/
theorem exists_of_catalog {check : Value → Checked α} {v : Value}
    {c : Catalog α} (h : catalog check v = accepted c) :
    ∀ entry ∈ c.entries, ∃ v, check v = accepted entry.2 := by
  cases v with
  | map members =>
      simp only [catalog, map_eq_accepted] at h
      obtain ⟨entries, heach, rfl⟩ := h
      intro entry hentry
      exact exists_of_each heach entry (Catalog.mem_of_mem_ofList hentry)
  | _ => cases h

-- ============================================================ writing

section Writing

variable {γ : Type v} {check : Value → Checked α} {write : γ → Value}
  {image : γ → α}

/-- Members that `check` accepts one by one are accepted by `each`. -/
theorem each_map {entries : List (String × γ)}
    (h : ∀ entry ∈ entries, check (write entry.2)
      = accepted (image entry.2)) :
    each check (entries.map fun entry => (entry.1, write entry.2))
      = accepted (entries.map fun entry => (entry.1, image entry.2)) := by
  induction entries with
  | nil => rfl
  | cons entry rest ih =>
      obtain ⟨hfirst, hmore⟩ := List.forall_mem_cons.1 h
      simp only [List.map_cons, each, hfirst, ih hmore, below_accepted,
        map_accepted, seq_accepted]

/-- A catalogue whose entries `check` accepts one by one is accepted by
`catalog`, each entry in its place. -/
theorem catalog_map {c : Catalog γ}
    (h : ∀ entry ∈ c.entries, check (write entry.2)
      = accepted (image entry.2)) :
    catalog check (.map (c.map fun _ a => write a).entries)
      = accepted (c.map fun _ a => image a) := by
  simp only [catalog, Catalog.map, each_map h, map_accepted]
  exact congrArg accepted
    (Catalog.ofList_entries (c.map fun _ a => image a))

end Writing

/-- A list of texts is accepted as it is. -/
theorem list_text (texts : List String) :
    list text (.list (texts.map .string)) = accepted texts := by
  have hfrom : ∀ n, (List.map Prod.snd) <$> each text
      (((texts.map Value.string).zipIdx n).map fun p => (toString p.2, p.1))
        = accepted texts := by
    induction texts with
    | nil => exact fun _ => rfl
    | cons first rest ih =>
        intro n
        obtain ⟨entries, heach, hrest⟩ := map_eq_accepted.1 (ih (n + 1))
        simp only [List.map_cons, List.zipIdx_cons, each, text, heach,
          below_accepted, map_accepted, seq_accepted, hrest]
  exact hfrom 0

end Checked

-- ============================================================== fields

namespace Field

/-- What a `required` member is accepted as was accepted by `check`. -/
theorem of_required {f : Field} {check : Value → Checked α}
    {members : List (String × Value)} {a : α}
    (h : f.required check members = .accepted a) :
    ∃ v, check v = .accepted a := by
  unfold required at h
  cases hfind : f.find? members with
  | none =>
      rw [hfind] at h
      cases h
  | some member =>
      rw [hfind] at h
      exact ⟨member.2, Checked.below_eq_accepted.1 h⟩

/-- What an `optional` member is accepted as is the default, or was accepted by
`check`. -/
theorem of_optional {f : Field} {default : α} {check : Value → Checked α}
    {members : List (String × Value)} {a : α}
    (h : f.optional default check members = .accepted a) :
    a = default ∨ ∃ v, check v = .accepted a := by
  unfold optional at h
  cases hfind : f.find? members with
  | none =>
      rw [hfind] at h
      cases h
      exact .inl rfl
  | some member =>
      rw [hfind] at h
      exact .inr ⟨member.2, Checked.below_eq_accepted.1 h⟩

/-- A `required` member that is there and is accepted. -/
theorem required_accepted {f : Field} {check : Value → Checked α}
    {members : List (String × Value)} {v : Value} {a : α}
    (h : members.lookup f.wire = some v) (hv : check v = .accepted a) :
    f.required check members = .accepted a := by
  simp only [required, find?, h, hv, Checked.below_accepted]

/-- An `optional` member that is there and is accepted, or is not there. -/
theorem optional_accepted {f : Field} {check : Value → Checked α}
    {members : List (String × Value)} {v : Option Value} {default a : α}
    (h : members.lookup f.wire = v) (hsome : ∀ w, v = some w →
      check w = .accepted a)
    (hnone : v = none → members.lookup f.plain = none ∧ a = default) :
    f.optional default check members = .accepted a := by
  cases v with
  | some w =>
      simp only [optional, find?, h, hsome w rfl, Checked.below_accepted]
  | none =>
      obtain ⟨hplain, hdefault⟩ := hnone rfl
      simp only [optional, find?, h, hplain, hdefault, Option.map_none]

end Field
end Colloquy
