/-
Registries and what was registered in them. A log lists definitions in the
order in which they were registered, repeated ids and all. The registry that
comes of it says no more than the log: its ids are those of the log in the
order in which they first came (`ids_registerAll`), and under an id stands
the last definition with it (`get?_registerAll`).

# Triggers

Two orders meet where an intent is looked up. Which definition counts for an
id is decided by what came last; which id has precedence, by what came
first. So a log is searched from the front, and each id is judged by its
last definition (`triggered?`, `findByTrigger_registerAll`).
-/
import Mathlib.Data.List.Basic
import Mathlib.Data.List.Find
import Mathlib.Data.List.Induction
import Colloquy.Proofs.Catalog
import Colloquy.Registry

namespace Colloquy

universe u

variable {α : Type u}

-- ============================================================ catalogues

/-- What `find?` finds among the values stands under the first name whose value
will do. -/
theorem Catalog.find?_values (c : Catalog α) (p : α → Bool) :
    c.values.find? p
      = (c.names.find? fun name => (c.get? name).any p).bind c.get? := by
  have hbyName : c.entries.find? (fun entry => (c.get? entry.1).any p)
      = c.entries.find? fun entry => p entry.2 := by
    refine List.find?_congr fun entry hentry => ?_
    rw [get?_of_mem hentry, Option.any_some]
  unfold values names
  rw [List.find?_map, List.find?_map]
  simp only [Function.comp_def]
  rw [hbyName]
  cases hfound : c.entries.find? fun entry => p entry.2 with
  | none => rfl
  | some entry => exact (get?_of_mem (List.mem_of_find?_eq_some hfound)).symm

/-- Under `eraseDups`, a name at the end of a list is kept if it is new. -/
theorem eraseDups_concat (names : List String) (name : String) :
    (names ++ [name]).eraseDups
      = if name ∈ names then names.eraseDups
        else names.eraseDups ++ [name] := by
  rw [List.eraseDups_append]
  by_cases h : name ∈ names
  · rw [if_pos h]
    simp [List.removeAll, h]
  · rw [if_neg h]
    simp [List.removeAll, h, List.eraseDups_cons]

/-- What `find?` finds does not depend on repetitions. -/
theorem find?_eraseDups (names : List String) (p : String → Bool) :
    names.eraseDups.find? p = names.find? p := by
  induction names using List.reverseRecOn with
  | nil => rfl
  | append_singleton names name ih =>
      rw [eraseDups_concat, List.find?_append]
      by_cases h : name ∈ names
      · rw [if_pos h, ih]
        cases hfind : names.find? p with
        | some found => rfl
        | none =>
            have hp : p name = false :=
              Bool.eq_false_iff.2 (List.find?_eq_none.1 hfind name h)
            rw [Option.none_or, List.find?_singleton, hp]
            rfl
      · rw [if_neg h, List.find?_append, ih]

namespace Registry

-- ================================================================= logs

/-- The last definition of the log with this id. -/
def latest? (log : List Definition) (id : String) : Option Definition :=
  log.reverse.find? (·.id = id)

/-- What an intent triggers, going by a log: the id that comes first among
those whose `latest?` definition has that trigger, with that definition. -/
def triggered? (log : List Definition) (intent : String) :
    Option Definition :=
  (log.find? fun d => (latest? log d.id).any (·.trigger = intent)).bind
    fun d => latest? log d.id

theorem latest?_cons (d : Definition) (log : List Definition) (id : String) :
    latest? (d :: log) id
      = (latest? log id).or (if d.id = id then some d else none) := by
  unfold latest?
  rw [List.reverse_cons, List.find?_append, List.find?_singleton]
  by_cases h : d.id = id
  · rw [if_pos h, if_pos (decide_eq_true h)]
  · rw [if_neg h, if_neg (by simp [h])]

/-- If no definition of the log has the id, `latest?` finds none. -/
theorem latest?_eq_none {log : List Definition} {id : String}
    (h : ∀ d ∈ log, d.id ≠ id) : latest? log id = none := by
  refine List.find?_eq_none.2 fun d hd => ?_
  rw [decide_eq_true_eq]
  exact h d (List.mem_reverse.1 hd)

theorem get?_register (r : Registry) (d : Definition) (id : String) :
    (r.register d).get? id = if id = d.id then some d else r.get? id :=
  r.definitions.get?_put d.id id d

theorem ids_register (r : Registry) (d : Definition) :
    (r.register d).ids = if d.id ∈ r.ids then r.ids else r.ids ++ [d.id] :=
  r.definitions.names_put d.id d

theorem registerAll_append (r : Registry) (log log' : List Definition) :
    r.registerAll (log ++ log') = (r.registerAll log).registerAll log' :=
  List.foldl_append ..

/-- Under an id stands the `latest?` definition of the log, or what stood there
before. -/
theorem get?_registerAll (r : Registry) (log : List Definition)
    (id : String) :
    (r.registerAll log).get? id = (latest? log id).or (r.get? id) := by
  unfold registerAll
  induction log generalizing r with
  | nil => rfl
  | cons d rest ih =>
      rw [List.foldl_cons, ih, get?_register, latest?_cons, Option.or_assoc]
      by_cases h : id = d.id
      · rw [if_pos h, if_pos h.symm, Option.some_or]
      · rw [if_neg h, if_neg (Ne.symm h), Option.none_or]

/-- The ids of `registerAll` come in the order in which they first came. -/
theorem ids_registerAll {r : Registry} {known : List String}
    (h : r.ids = known.eraseDups) (log : List Definition) :
    (r.registerAll log).ids = (known ++ log.map (·.id)).eraseDups := by
  unfold registerAll
  induction log generalizing r known with
  | nil => rw [List.foldl_nil, h, List.map_nil, List.append_nil]
  | cons d rest ih =>
      have hregister : (r.register d).ids = (known ++ [d.id]).eraseDups := by
        rw [ids_register, eraseDups_concat, h]
        simp only [List.mem_eraseDups]
      rw [List.foldl_cons, ih hregister, List.append_assoc]
      rfl

theorem ids_registerAll_empty (log : List Definition) :
    (({} : Registry).registerAll log).ids = (log.map (·.id)).eraseDups := by
  have hnone : ({} : Registry).ids = ([] : List String).eraseDups := rfl
  exact ids_registerAll hnone log

theorem names_registerAll (log : List Definition) :
    (({} : Registry).registerAll log).definitions.names
      = (log.map (·.id)).eraseDups := ids_registerAll_empty log

theorem get?_registerAll_empty (log : List Definition) :
    (({} : Registry).registerAll log).definitions.get? = latest? log :=
  funext fun id => (get?_registerAll {} log id).trans Option.or_none

/-- What `findByTrigger` finds is what is `triggered?` by the log. -/
theorem findByTrigger_registerAll (log : List Definition) (intent : String) :
    (({} : Registry).registerAll log).findByTrigger intent
      = triggered? log intent := by
  unfold findByTrigger triggered?
  rw [Catalog.find?_values, names_registerAll, find?_eraseDups, List.find?_map]
  rw [Option.bind_map, get?_registerAll_empty]
  rfl

end Registry
end Colloquy
