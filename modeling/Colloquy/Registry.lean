/-
The registry: definitions under their ids, in the order in which the ids came.
A definition that replaces another takes its place, so the order in which
triggers are tried does not change.
-/
import Colloquy.Definition
import Colloquy.Log

namespace Colloquy

/-- Where no definition is known, each is under its own id. -/
theorem Registry.keyed_empty (id : String) (d : Definition)
    (h : (Catalog.empty : Catalog Definition).get? id = some d) :
    d.id = id := by
  rw [Catalog.get?_empty] at h
  cases h

/-- The definitions that are known, each under its own id. -/
structure Registry where
  definitions : Catalog Definition := .empty
  keyed : ∀ id d, definitions.get? id = some d → d.id = id := by
    exact Colloquy.Registry.keyed_empty

namespace Registry

instance : Inhabited Registry := ⟨{}⟩

/-- The registry with a definition put under its id. -/
def register (r : Registry) (d : Definition) : Registry where
  definitions := r.definitions.put d.id d
  keyed id found := by
    rw [Catalog.get?_put]
    split
    · next h =>
      intro hd
      rw [h, Option.some.inj hd]
    · exact r.keyed id found

/-- The definition with an id. -/
def get? (r : Registry) (id : String) : Option Definition :=
  r.definitions.get? id

/-- The ids, in order. -/
def ids (r : Registry) : List String := r.definitions.names

/-- The first definition that the intent activates. -/
def findByTrigger (r : Registry) (intent : String) : Option Definition :=
  r.definitions.values.find? fun d => d.trigger = intent

/-- Whether the intent activates a workflow. -/
def shouldTrigger (r : Registry) (intent : String) : Bool :=
  (r.findByTrigger intent).isSome

/-- The definitions registered one after another. -/
def registerAll (r : Registry) (ds : List Definition) : Registry :=
  ds.foldl register r

-- ============================================================ entries

/-- The entry for a definition about to be registered. -/
def registrationEntry (r : Registry) (d : Definition) : Log.Entry :=
  { level := .debug, source := .registry, message := "Registered workflow"
    fields := [("workflow_id", .string d.id),
      ("replaced", .bool (r.get? d.id).isSome)] }

/-- The entries for definitions about to be registered one after another. -/
def registrationEntries (r : Registry) : List Definition → List Log.Entry
  | [] => []
  | d :: rest =>
    r.registrationEntry d :: registrationEntries (r.register d) rest

/-- The entry for a batch that was loaded. -/
def loadedEntry (ids : List String) : Log.Entry :=
  { level := .info, source := .registry,
    message := "Loaded workflow definitions"
    fields := [("workflow_ids", .list (ids.map .string))] }

end Registry
end Colloquy
