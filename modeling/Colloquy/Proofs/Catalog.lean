/-
Catalogues and lists of entries. A catalogue of a list holds nothing but
what the list holds, and a catalogue is the catalogue of its entries: under
names that are new, what is put goes to the end.
-/
import Colloquy.Catalog

namespace Colloquy

universe u v w

variable {α : Type u} {β : Type v}

-- ============================================================== entries

theorem putEntry_of_not_mem {name : String} {value : α}
    {entries : List (String × α)} (h : name ∉ entries.map Prod.fst) :
    putEntry name value entries = entries ++ [(name, value)] := by
  induction entries with
  | nil => rfl
  | cons first rest ih =>
      rw [List.map_cons, List.mem_cons, not_or] at h
      rw [putEntry, if_neg (Ne.symm h.1), ih h.2]
      rfl

namespace Catalog

-- ================================================================ lists

theorem mem_entries_putAll {c : Catalog α} {entry : String × α}
    {entries : List (String × α)} (h : entry ∈ (c.putAll entries).entries) :
    entry ∈ c.entries ∨ entry ∈ entries := by
  induction entries generalizing c with
  | nil => exact .inl h
  | cons first rest ih =>
      rcases ih h with hput | hrest
      · rcases mem_putEntry hput with rfl | hc
        · exact .inr (List.mem_cons_self ..)
        · exact .inl hc
      · exact .inr (List.mem_cons_of_mem _ hrest)

/-- Each entry of `ofList entries` is one of `entries`. -/
theorem mem_of_mem_ofList {entry : String × α} {entries : List (String × α)}
    (h : entry ∈ (ofList entries).entries) : entry ∈ entries := by
  rcases mem_entries_putAll h with hempty | hentries
  · cases hempty
  · exact hentries

/-- Under new and distinct names, `putAll` adds the entries at the end, in
order. -/
theorem entries_putAll {c : Catalog α} {entries : List (String × α)}
    (h : ((c.entries ++ entries).map Prod.fst).Nodup) :
    (c.putAll entries).entries = c.entries ++ entries := by
  induction entries generalizing c with
  | nil => exact (List.append_nil _).symm
  | cons first rest ih =>
      have hnew : first.1 ∉ c.entries.map Prod.fst := by
        rw [List.map_append, List.nodup_append] at h
        intro hmem
        exact h.2.2 _ hmem first.1 (List.mem_cons_self ..) rfl
      have hput : (c.put first.1 first.2).entries = c.entries ++ [first] :=
        putEntry_of_not_mem hnew
      show ((c.put first.1 first.2).putAll rest).entries = _
      rw [ih, hput, List.append_assoc]
      · rfl
      · rw [hput, List.append_assoc]
        exact h

/-- A catalogue is `ofList` of its entries. -/
theorem ofList_entries (c : Catalog α) : ofList c.entries = c := by
  apply ext
  exact entries_putAll
    (show (([] ++ c.entries).map Prod.fst).Nodup from c.nodup)

-- =============================================================== images

theorem map_eq_self {c : Catalog α} {f : String → α → α}
    (h : ∀ entry ∈ c.entries, f entry.1 entry.2 = entry.2) : c.map f = c := by
  apply ext
  show c.entries.map (fun entry => (entry.1, f entry.1 entry.2)) = c.entries
  rw [List.map_congr_left fun entry hentry => by
    rw [h entry hentry]]
  exact List.map_id _

theorem get?_of_mem {c : Catalog α} {entry : String × α}
    (h : entry ∈ c.entries) : c.get? entry.1 = some entry.2 :=
  lookup_of_mem c.nodup h

theorem get?_map (c : Catalog α) (f : String → α → β) (name : String) :
    (c.map f).get? name = (c.get? name).map (f name) := by
  obtain ⟨entries, nodup⟩ := c
  show (entries.map fun entry => (entry.1, f entry.1 entry.2)).lookup name
    = (entries.lookup name).map (f name)
  clear nodup
  induction entries with
  | nil => rfl
  | cons first rest ih =>
      obtain ⟨key, value⟩ := first
      rw [List.map_cons, List.lookup_cons, List.lookup_cons]
      by_cases h : name = key
      · subst h
        rw [beq_self_eq_true]
        rfl
      · rw [beq_false_of_ne h]
        exact ih

theorem names_map (c : Catalog α) (f : String → α → β) :
    (c.map f).names = c.names := by
  show (c.entries.map fun entry => (entry.1, f entry.1 entry.2)).map Prod.fst
    = c.entries.map Prod.fst
  rw [List.map_map]
  rfl

theorem values_map (c : Catalog α) (f : α → β) :
    (c.map fun _ => f).values = c.values.map f := by
  show (c.entries.map fun entry => (entry.1, f entry.2)).map Prod.snd
    = (c.entries.map Prod.snd).map f
  rw [List.map_map, List.map_map]
  rfl

theorem map_map {γ : Type w} (c : Catalog α) (f : α → β) (g : β → γ) :
    (c.map fun _ => f).map (fun _ => g) = c.map fun _ a => g (f a) := by
  apply ext
  show (c.entries.map fun entry => (entry.1, f entry.2)).map
      (fun entry => (entry.1, g entry.2))
    = c.entries.map fun entry => (entry.1, g (f entry.2))
  rw [List.map_map]
  rfl

theorem map_put (c : Catalog α) (f : α → β) (name : String) (value : α) :
    (c.put name value).map (fun _ => f)
      = (c.map fun _ => f).put name (f value) := by
  obtain ⟨entries, nodup⟩ := c
  apply ext
  show (putEntry name value entries).map (fun entry => (entry.1, f entry.2))
    = putEntry name (f value) (entries.map fun entry => (entry.1, f entry.2))
  clear nodup
  induction entries with
  | nil => rfl
  | cons first rest ih =>
      rw [putEntry, List.map_cons, putEntry]
      by_cases h : first.1 = name
      · rw [if_pos h, if_pos h, List.map_cons]
      · rw [if_neg h, if_neg h, List.map_cons, ih]

theorem get?_map_of_mem {c : Catalog α} {entry : String × α}
    (h : entry ∈ c.entries) (f : String → α → β) :
    (c.map f).get? entry.1 = some (f entry.1 entry.2) :=
  lookup_of_mem (c.map f).nodup (List.mem_map.2 ⟨entry, h, rfl⟩)

end Catalog
end Colloquy
