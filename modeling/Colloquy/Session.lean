/-
Sessions: texts in, with a classifier in front of the engine. The classifier
gives each text its intent; a text that the engine takes as content whatever it
says is not classified at all.
-/
import Colloquy.Engine

namespace Colloquy

/-- What a classifier makes of a text. -/
structure Classification where
  intent : String
  score : Binary64 := .zero false
deriving Inhabited

/-- The intent of a text that nothing is known of. -/
def Session.unknownIntent : String := "unknown"

/-- What gives every text its intent. -/
structure Classifier where
  classify : String → Classification

/-- The classifier that knows the texts of a list, and nothing of any other
text. -/
def Classifier.ofList (entries : List (String × Classification)) :
    Classifier :=
  let known := Catalog.ofList entries
  { classify := fun text =>
    (known.get? text).getD { intent := Session.unknownIntent } }

namespace Session

universe u

/-- How a text is to be given to the engine. -/
inductive Routing
  | blank
  | content (text : String)
  | classify (text : String)
deriving DecidableEq, Repr

/-- How an engine is to be given a text. -/
def route {H : Type u} (e : Engine H) (text : String) : Routing :=
  let trimmed := Text.trim text
  if trimmed.isEmpty then .blank
  else if e.isCapturing then .content trimmed
  else .classify trimmed

/-- What came of a text. -/
structure Turn where
  text : String
  intent : String
  score : Binary64
  bypassed : Bool
  outcome : Outcome

/-- The turn of a text that was taken as content. -/
def Turn.ofContent (text : String) (outcome : Outcome) : Turn :=
  { text, intent := unknownIntent, score := .zero false, bypassed := true,
    outcome }

/-- The turn of a text that was classified. -/
def Turn.ofClassified (text : String) (c : Classification)
    (outcome : Outcome) : Turn :=
  { text, intent := c.intent, score := c.score, bypassed := false, outcome }

/-- The entries for a classified text that came to nothing. -/
def outcomeEntries (c : Classification) (outcome : Outcome) : List Log.Entry :=
  if outcome.consumed then []
  else
    [{ level := .debug, source := .session
       message := "Input not consumed by workflow engine"
       fields := [("intent", .string c.intent)] }]

end Session
end Colloquy
