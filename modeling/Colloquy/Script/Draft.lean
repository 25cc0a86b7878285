/-
Drafts: a context as a program writes it. On the way its buffer may hold any
value, and what is added to the buffer is added as to a value of its kind.

A context proper holds a text, and what it remembers has a text as well. In
every other context the buffer holds a stray. A value that is no text can
neither be counted in words nor, unless it is null, be put into a message; a
text is a stray where a remembered value has none (`Value.hasText`), and then
that value cannot be put into a message.

A list grows in place. Whoever was shown a list sees what is added to it later,
until a program puts something else into the buffer. So a list in a buffer is a
row of a table, and who is shown it is shown the row.
-/
import Colloquy.Handler
import Colloquy.Template

namespace Colloquy.Script

-- =============================================================== sums

/-- Why a value cannot be added to another: the two do not go together, or a
whole number is beyond the floating-point ones. -/
inductive SumFault
  | mismatch
  | tooLarge
deriving DecidableEq, Repr

/-- The wording of a fault of adding. -/
def SumFault.message : SumFault → String
  | .mismatch => "the two values cannot be added"
  | .tooLarge => "int too large to convert to float"

/-- A value as a number: whole, or a floating-point one. -/
def numberOf? : Value → Option (Int ⊕ Binary64)
  | .int n => some (.inl n)
  | .bool b => some (.inl (if b then 1 else 0))
  | .float x => some (.inr x)
  | _ => none

/-- A number as a floating-point one. -/
def realOf : Int ⊕ Binary64 → Except SumFault Binary64
  | .inl n =>
    match Binary64.ofRatio (n < 0) n.natAbs 1 with
    | .infinite _ => .error .tooLarge
    | x => .ok x
  | .inr x => .ok x

/-- The sum of two numbers: whole if both are. -/
def sumOfNumbers : Int ⊕ Binary64 → Int ⊕ Binary64 → Except SumFault Value
  | .inl m, .inl n => .ok (.int (m + n))
  | x, y => do return .float (.add (← realOf x) (← realOf y))

/-- What a value gives a list one by one: its items, its characters or its
names. -/
def itemsOf? : Value → Option (List Value)
  | .list items => some items
  | .string s =>
    some ((Text.points s.toList).map fun n =>
      .string (.ofList (Text.ofPoint n)))
  | .map members => some (members.map fun member => .string member.1)
  | _ => none

/-- A value with another one added to it, if the two go together: texts,
numbers, or a list and what gives it more items. -/
def sum : Value → Value → Except SumFault Value
  | .string s, .string t => .ok (.string (s ++ t))
  | .list items, v =>
    match itemsOf? v with
    | some more => .ok (.list (items ++ more))
    | none => .error .mismatch
  | v, w =>
    match numberOf? v, numberOf? w with
    | some x, some y => sumOfNumbers x y
    | _, _ => .error .mismatch

-- ============================================================= strays

/-- What stands in the buffer of a context that is not proper: a value, or the
row of a list. A text is a stray there, if a remembered value has no text. -/
inductive Stray
  | value (v : Value)
  | row (number : Nat)
deriving Inhabited

/-- Whether a stray is a text. -/
def Stray.isText : Stray → Bool
  | .value (.string _) => true
  | _ => false

/-- The rows of the lists that have been put into buffers. -/
abbrev Rows := List (List Value)

/-- What a stray is, as the rows are now. -/
def Rows.value (rows : Rows) : Stray → Value
  | .value v => v
  | .row number => .list (rows[number]?.getD [])

-- ============================================================= drafts

/-- A context under the hands of a program. A list in the buffer may have a row
already. -/
structure Draft where
  buffer : Value := .string ""
  row : Option Nat := none
  metadata : Catalog Value := .empty
  turnCount : Int := 0
  stateTurnCount : Int := 0
deriving Inhabited

namespace Draft

/-- The draft of a context, with a stray in its buffer if there is one. -/
def ofContext (rows : Rows) (ctx : Context) (stray : Option Stray := none) :
    Draft where
  buffer := (stray.map rows.value).getD (.string ctx.buffer)
  row := match stray with
    | some (.row number) => some number
    | _ => none
  metadata := ctx.metadata
  turnCount := ctx.turnCount
  stateTurnCount := ctx.stateTurnCount

/-- The context of a draft; a stray leaves the buffer empty. -/
def context (d : Draft) : Context where
  buffer := match d.buffer with
    | .string s => s
    | _ => ""
  metadata := d.metadata
  turnCount := d.turnCount
  stateTurnCount := d.stateTurnCount

/-- The stray in the buffer, if the draft makes no proper context, and the rows
with what it holds. A list without a row gets a new one. -/
def settle (rows : Rows) (d : Draft) : Rows × Option Stray :=
  match d.buffer, d.row with
  | .string s, _ =>
    (rows, if d.context.hasTexts then none else some (.value (.string s)))
  | .list items, some number => (rows.set number items, some (.row number))
  | .list items, none => (rows ++ [items], some (.row rows.length))
  | v, _ => (rows, some (.value v))

/-- The draft with a value in its buffer. -/
def put (d : Draft) (v : Value) : Draft := { d with buffer := v, row := none }

/-- The draft with a value added to its buffer. -/
def append (d : Draft) (v : Value) : Except SumFault Draft := do
  return { d with buffer := ← sum d.buffer v }

/-- The draft with a text gathered by a handler. -/
def gather (h : Handler) (text : String) (d : Draft) : Except SumFault Draft :=
  d.append (.string (h.addition d.buffer.saysNothing text))

/-- A context without a stray comes back from its draft. -/
theorem context_ofContext (rows : Rows) (ctx : Context) :
    (ofContext rows ctx).context = ctx := rfl

/-- The draft of a proper context holds no stray. -/
theorem settle_ofContext (rows : Rows) {ctx : Context} (h : ctx.hasTexts) :
    (ofContext rows ctx).settle rows = (rows, none) := by
  show (rows, if ctx.hasTexts then none else _) = _
  rw [if_pos h]

/-- On a text, a handler gathers what it gathers in a context. -/
theorem gather_ofContext (rows : Rows) (h : Handler) (text : String)
    (ctx : Context) :
    gather h text (ofContext rows ctx)
      = .ok (ofContext rows (h.run text ctx)) := by
  simp only [gather, ofContext, Option.map_none, Option.getD_none,
    Value.saysNothing_string]
  rfl

end Draft

-- ========================================================== obstacles

/-- Why a template cannot be rendered over a stray: the stray cannot stand in a
message, its words cannot be counted, or a remembered value has no text. -/
inductive Obstacle
  | unreadable
  | uncountable
  | untold
deriving DecidableEq, Repr

/-- What keeps a variable from having a text at all, over a stray. -/
def obstacleAt? (stray : Stray) (ctx : Context) :
    Template.Variable → Option Obstacle
  | .wordCount => if stray.isText then none else some .uncountable
  | .metadata key =>
    if (ctx.metadata.get? key).all Value.hasText then none else some .untold
  | _ => none

/-- What keeps a template from being rendered over a stray, in a context that
the stray makes improper. Only once every variable has a text does it matter
whether the stray can stand among them. -/
def obstacle? (stray : Stray) (ctx : Context) (template : String) :
    Option Obstacle :=
  let asked :=
    (Template.variablePaths template).filterMap Template.Variable.ofPath?
  match asked.findSome? (obstacleAt? stray ctx) with
  | some obstacle => some obstacle
  | none =>
    match stray with
    | .value .null | .value (.string _) => none
    | _ => if asked.contains .buffer then some .unreadable else none

end Colloquy.Script
