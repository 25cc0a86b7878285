/-
The memory of one activation of a workflow: the text gathered so far, named
values, and two counts of turns.
-/
import Colloquy.Value

namespace Colloquy

/-- What a workflow remembers from one turn to the next. -/
structure Context where
  buffer : String := ""
  metadata : Catalog Value := .empty
  turnCount : Int := 0
  stateTurnCount : Int := 0
deriving Inhabited

namespace Context

/-- The number of words gathered so far. -/
def wordCount (ctx : Context) : Nat := Text.wordCount ctx.buffer

/-- Whether every remembered value has a text. -/
def hasTexts (ctx : Context) : Bool := ctx.metadata.values.all Value.hasText

/-- One more turn, in the activation and in its state. -/
def countTurn (ctx : Context) : Context :=
  { ctx with
    turnCount := ctx.turnCount + 1, stateTurnCount := ctx.stateTurnCount + 1 }

/-- The context as a value, its members named as answers name them. -/
def toValue (ctx : Context) : Value :=
  .map [("buffer", .string ctx.buffer),
    ("metadata", .map ctx.metadata.entries),
    ("turnCount", .int ctx.turnCount),
    ("stateTurnCount", .int ctx.stateTurnCount)]

end Context
end Colloquy
