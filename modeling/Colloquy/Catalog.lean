/-
A finite map from names that remembers the order in which its names came.
Storing under a name that is already there keeps the name's place; a new name
goes to the end. Names are distinct, by the type.

Lists of named entries that are still being built, such as the members of an
object under the reader's hand, follow the same rule through `putEntry`.
-/

namespace Colloquy

universe u v

variable {α : Type u} {β : Type v}

-- ========================================================== raw entries

/-- The entries with `value` under `name`: in the name's place if it has one,
at the end otherwise. -/
def putEntry (name : String) (value : α) :
    List (String × α) → List (String × α)
  | [] => [(name, value)]
  | entry :: rest =>
    if entry.1 = name then (name, value) :: rest
    else entry :: putEntry name value rest

/-- Storing under a name adds the name to the names, if it is new. -/
theorem map_fst_putEntry (name : String) (value : α)
    (entries : List (String × α)) :
    (putEntry name value entries).map Prod.fst
      = if name ∈ entries.map Prod.fst then entries.map Prod.fst
        else entries.map Prod.fst ++ [name] := by
  induction entries with
  | nil => rfl
  | cons entry rest ih =>
    by_cases h : entry.1 = name
    · simp [putEntry, h]
    · simp only [putEntry, h, if_false, List.map_cons, ih, List.mem_cons,
        Ne.symm h, false_or]
      split <;> simp

/-- What is stored under a name is found there, and nothing else moves. -/
theorem lookup_putEntry (name other : String) (value : α)
    (entries : List (String × α)) :
    (putEntry name value entries).lookup other
      = if other = name then some value else entries.lookup other := by
  induction entries with
  | nil =>
    by_cases h : other = name
    · simp [putEntry, h]
    · simp [putEntry, List.lookup_cons, beq_false_of_ne h, h]
  | cons entry rest ih =>
    obtain ⟨key, old⟩ := entry
    by_cases hkey : key = name
    · subst hkey
      by_cases h : other = key
      · simp [putEntry, h]
      · simp [putEntry, List.lookup_cons, beq_false_of_ne h, h]
    · by_cases h : other = key
      · subst h
        simp [putEntry, hkey]
      · simp [putEntry, hkey, List.lookup_cons, beq_false_of_ne h, ih]

/-- Storing brings no entry but the one that is stored. -/
theorem mem_putEntry {name : String} {value : α} {entry : String × α}
    {entries : List (String × α)}
    (h : entry ∈ putEntry name value entries) :
    entry = (name, value) ∨ entry ∈ entries := by
  induction entries with
  | nil => exact .inl (List.mem_singleton.1 h)
  | cons first rest ih =>
    by_cases hfirst : first.1 = name
    · rw [putEntry, if_pos hfirst] at h
      exact (List.mem_cons.1 h).imp id (List.mem_cons_of_mem _)
    · rw [putEntry, if_neg hfirst] at h
      rcases List.mem_cons.1 h with rfl | h
      · exact .inr (List.mem_cons_self ..)
      · exact (ih h).imp id (List.mem_cons_of_mem _)

/-- Under distinct names, an entry is found under its name. -/
theorem lookup_of_mem {name : String} {value : α} {entries : List (String × α)}
    (hnodup : (entries.map Prod.fst).Nodup) (h : (name, value) ∈ entries) :
    entries.lookup name = some value := by
  induction entries with
  | nil => cases h
  | cons first rest ih =>
    obtain ⟨hfirst, hrest⟩ := List.nodup_cons.1 hnodup
    rcases List.mem_cons.1 h with rfl | h
    · exact List.lookup_cons_self
    · have hne : name ≠ first.1 := by
        rintro rfl
        exact hfirst (List.mem_map.2 ⟨_, h, rfl⟩)
      rw [List.lookup_cons, beq_false_of_ne hne]
      exact ih hrest h

-- ============================================================ catalogue

/-- Entries under distinct names, in the order in which the names came. -/
structure Catalog (α : Type u) where
  entries : List (String × α)
  nodup : (entries.map Prod.fst).Nodup

namespace Catalog

/-- No entries. -/
def empty : Catalog α := ⟨[], List.nodup_nil⟩

instance : Inhabited (Catalog α) := ⟨empty⟩

/-- The names, in order. -/
def names (c : Catalog α) : List String := c.entries.map Prod.fst

/-- The values, in the order of their names. -/
def values (c : Catalog α) : List α := c.entries.map Prod.snd

/-- What stands under `name`. -/
def get? (c : Catalog α) (name : String) : Option α := c.entries.lookup name

/-- Whether something stands under `name`. -/
def contains (c : Catalog α) (name : String) : Bool := (c.get? name).isSome

/-- The number of entries. -/
def size (c : Catalog α) : Nat := c.entries.length

/-- Whether there are no entries. -/
def isEmpty (c : Catalog α) : Bool := c.entries.isEmpty

/-- The catalogue with `value` under `name`. -/
def put (c : Catalog α) (name : String) (value : α) : Catalog α where
  entries := putEntry name value c.entries
  nodup := by
    rw [map_fst_putEntry]
    split
    · exact c.nodup
    · next h => exact List.nodup_append.2 ⟨c.nodup, by simp, by
        intro a ha b hb
        rw [List.mem_singleton.1 hb]
        rintro rfl
        exact h ha⟩

/-- The catalogue without `name`. -/
def erase (c : Catalog α) (name : String) : Catalog α where
  entries := c.entries.filter fun entry => entry.1 != name
  nodup := c.nodup.sublist ((List.filter_sublist).map Prod.fst)

/-- The entries put one after another into `c`. -/
def putAll (c : Catalog α) (entries : List (String × α)) : Catalog α :=
  entries.foldl (fun c entry => c.put entry.1 entry.2) c

/-- The catalogue of a list of entries, where a repeated name keeps its first
place and its last value. -/
def ofList (entries : List (String × α)) : Catalog α := empty.putAll entries

/-- Every value replaced by its image, each under its old name. -/
def map (f : String → α → β) (c : Catalog α) : Catalog β where
  entries := c.entries.map fun entry => (entry.1, f entry.1 entry.2)
  nodup := by simpa [List.map_map, Function.comp_def] using c.nodup

instance [DecidableEq α] : DecidableEq (Catalog α) := fun a b =>
  if h : a.entries = b.entries then isTrue (by cases a; cases b; simp_all)
  else isFalse (by rintro rfl; exact h rfl)

/-- Two catalogues with the same entries are the same. -/
theorem ext {a b : Catalog α} (h : a.entries = b.entries) : a = b := by
  cases a; cases b; simp_all

@[simp] theorem get?_empty (name : String) :
    (empty : Catalog α).get? name = none :=
  rfl

/-- What is put under a name is found there, and nothing else moves. -/
theorem get?_put (c : Catalog α) (name other : String) (value : α) :
    (c.put name value).get? other
      = if other = name then some value else c.get? other :=
  lookup_putEntry name other value c.entries

/-- Putting keeps the places of the names and adds a new name at the end. -/
theorem names_put (c : Catalog α) (name : String) (value : α) :
    (c.put name value).names
      = if name ∈ c.names then c.names else c.names ++ [name] :=
  map_fst_putEntry name value c.entries

/-- What stands under a name is an entry. -/
theorem mem_entries_of_get? {c : Catalog α} {name : String} {value : α}
    (h : c.get? name = some value) :
    (name, value) ∈ c.entries := by
  obtain ⟨before, after, h', -⟩ := List.lookup_eq_some_iff.1 h
  rw [h']
  exact List.mem_append_right _ (List.mem_cons_self ..)

/-- What stands under a name is one of the values. -/
theorem mem_values_of_get? {c : Catalog α} {name : String} {value : α}
    (h : c.get? name = some value) :
    value ∈ c.values :=
  List.mem_map.2 ⟨(name, value), mem_entries_of_get? h, rfl⟩

/-- Every value stands under a name. -/
theorem exists_get?_of_mem_values {c : Catalog α} {value : α}
    (h : value ∈ c.values) :
    ∃ name, c.get? name = some value := by
  obtain ⟨⟨name, value⟩, hmem, rfl⟩ := List.mem_map.1 h
  exact ⟨name, lookup_of_mem c.nodup hmem⟩

/-- Putting brings no value but the one that is put. -/
theorem mem_values_put {c : Catalog α} {name : String} {value other : α}
    (h : other ∈ (c.put name value).values) :
    other = value ∨ other ∈ c.values := by
  obtain ⟨⟨key, found⟩, hmem, rfl⟩ := List.mem_map.1 h
  rcases mem_putEntry hmem with h | h
  · exact .inl (congrArg Prod.snd h)
  · exact .inr (List.mem_map.2 ⟨_, h, rfl⟩)

end Catalog
end Colloquy
