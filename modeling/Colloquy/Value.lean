/-
Values: what a context remembers beside its buffer, what a log record carries
beside its message, and what JSON text says. A map keeps its members in order
and its keys are distinct.

A value has a text. A string is its own text; inside a list or a map it stands
quoted, so that the text of a container shows where each string ends. The text
of a whole number with too many digits is refused, and so is the text of what
holds such a number (`Value.hasText`); where texts are asked for, `Value.text`
counts for the others alone.
-/
import Colloquy.Catalog
import Colloquy.Number.Decimal
import Colloquy.Number.Whole
import Colloquy.Path
import Colloquy.Text.Quoted

namespace Colloquy

/-- A value. -/
inductive Value
  | null
  | bool (b : Bool)
  | int (n : Int)
  | float (x : Binary64)
  | string (s : String)
  | path (p : Path)
  | list (items : List Value)
  | map (members : List (String × Value))
deriving Inhabited

namespace Value

mutual

/-- The text of a value inside a container. -/
def shown : Value → String
  | .null => "None"
  | .bool b => if b then "True" else "False"
  | .int n => toString n
  | .float x => x.text
  | .string s => Text.quoted s
  | .path p => "PosixPath(" ++ Text.quoted p.text ++ ")"
  | .list items => "[" ++ String.intercalate ", " (shownItems items) ++ "]"
  | .map members =>
    "\x7b" ++ String.intercalate ", " (shownMembers members) ++ "\x7d"

/-- The texts of the items of a list. -/
def shownItems : List Value → List String
  | [] => []
  | item :: rest => shown item :: shownItems rest

/-- The texts of the members of a map. -/
def shownMembers : List (String × Value) → List String
  | [] => []
  | (key, value) :: rest =>
    (Text.quoted key ++ ": " ++ shown value) :: shownMembers rest

end

/-- The text of a value. -/
def text : Value → String
  | .string s => s
  | .path p => p.text
  | value => value.shown

/-- What is said where a text is refused. -/
def textRefusal : String :=
  s!"Exceeds the limit ({Whole.maxDigits} digits) for integer string "
    ++ "conversion; use sys.set_int_max_str_digits() to increase the limit"

mutual

/-- Whether a value has a text: no whole number in it has more than
`Whole.maxDigits` digits. -/
def hasText : Value → Bool
  | .int n => n.natAbs < tenTo Whole.maxDigits
  | .list items => itemsHaveText items
  | .map members => membersHaveText members
  | _ => true

/-- Whether the items of a list all have a text. -/
def itemsHaveText : List Value → Bool
  | [] => true
  | item :: rest => hasText item && itemsHaveText rest

/-- Whether the members of a map all have a text. -/
def membersHaveText : List (String × Value) → Bool
  | [] => true
  | (_, value) :: rest => hasText value && membersHaveText rest

end

/-- The member of a map under `key`. -/
def member? (key : String) : Value → Option Value
  | .map members => members.lookup key
  | _ => none

/-- Whether a value is as good as none: null, false, zero or empty. -/
def saysNothing : Value → Bool
  | .null | .bool false | .int 0 | .string "" | .list [] | .map [] => true
  | .float (.finite _ m _) => m = 0
  | _ => false

/-- A text says nothing exactly if it is empty. -/
theorem saysNothing_string (s : String) :
    (Value.string s).saysNothing = s.isEmpty := by
  by_cases h : s = ""
  · subst h; rfl
  · rw [show s.isEmpty = false by simpa [String.isEmpty_iff] using h]
    unfold saysNothing
    split <;> simp_all

end Value
end Colloquy
