/-
Where a transition leads: out of the workflow, or to a state of it. A target
may carry a message of its own for this one transition; the empty message is
one.

A target has a compact text, `exit`, `exit:message`, `state` or
`state:message`. Only the first colon separates, so a message may hold colons
of its own.
-/
import Colloquy.Text.Search
import Colloquy.Vocabulary

namespace Colloquy

/-- The two kinds of target. -/
inductive Target.Kind
  | exit
  | goto
deriving DecidableEq, Repr

/-- The words for the kinds of target. -/
def Target.Kind.vocabulary : Vocabulary Target.Kind :=
  ⟨"TargetKind", [("exit", .exit), ("goto", .goto)]⟩

/-- The word for a kind of target. -/
def Target.Kind.word : Target.Kind → String
  | .exit => "exit"
  | .goto => "goto"

/-- Where a transition leads. A target of kind `goto` names a state if it was
read from text; one that was built by hand may lack it. -/
structure Target where
  kind : Target.Kind
  state : Option String := none
  message : Option String := none
deriving DecidableEq, Repr

namespace Target

/-- The way out without a message of its own. -/
def exit : Target := { kind := .exit }

instance : Inhabited Target := ⟨exit⟩

/-- The word that leads out. -/
def exitWord : String := "exit"

/-- Whether the target leads out of the workflow. -/
def isExit (t : Target) : Bool := t.kind == .exit

/-- The compact text of a target. -/
def wire (t : Target) : String :=
  let head := if t.isExit then exitWord else t.state.getD ""
  match t.message with
  | none => head
  | some message => head ++ ":" ++ message

/-- The target that a compact text stands for. -/
def parse (text : String) : Target :=
  let (head, after) := Text.cutAt ':' text.toList
  let head := String.ofList head
  let message := after.map String.ofList
  if head = exitWord then { kind := .exit, message }
  else { kind := .goto, state := some head, message }

end Target
end Colloquy
