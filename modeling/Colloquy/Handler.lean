/-
Handlers take the inputs of a state that has no transition for them. A handler
that keeps to its context is a function of the text and the context; it may
stop short with a failure, and what it wrote until then stays written.
-/
import Colloquy.Context

namespace Colloquy

universe u

/-- A handler that reads and writes nothing but the context it is given. -/
abbrev ContextHandler (ε : Type u) := String → Context → Context × Option ε

/-- A handler that gathers texts in the buffer: what it puts between two of
them, and what it puts in front of each. -/
structure Handler where
  between : String
  lead : String
deriving DecidableEq, Repr

namespace Handler

/-- Puts a space between texts. -/
def accumulate : Handler := { between := " ", lead := "" }

/-- Makes each text an item of a list, on a line of its own. -/
def bullets : Handler := { between := "\n", lead := "- " }

/-- The handlers that every table starts with. -/
def builtins : List (String × Handler) :=
  [("accumulate", accumulate), ("bullets", bullets)]

/-- What a handler adds to a buffer for a text. -/
def addition (h : Handler) (isEmpty : Bool) (text : String) : String :=
  (if isEmpty then "" else h.between) ++ h.lead ++ text

/-- The context with a text gathered. -/
def run (h : Handler) (text : String) (ctx : Context) : Context :=
  { ctx with buffer := ctx.buffer ++ h.addition ctx.buffer.isEmpty text }

/-- The handler as one that cannot fail. -/
def toContextHandler {ε : Type u} (h : Handler) : ContextHandler ε :=
  fun text ctx => (h.run text ctx, none)

end Handler
end Colloquy
