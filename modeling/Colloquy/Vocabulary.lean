/-
Closed vocabularies: a few words, each with its meaning, and a title by which a
refusal names the vocabulary.
-/
import Colloquy.Text.Quoted

namespace Colloquy

universe u

/-- A vocabulary: its title, and its words with their meanings. -/
structure Vocabulary (α : Type u) where
  title : String
  words : List (String × α)

/-- A word that a vocabulary does not have. -/
structure UnknownWord where
  word : String
  vocabulary : String
deriving DecidableEq, Repr

/-- The wording of a refused word. -/
def UnknownWord.message (e : UnknownWord) : String :=
  Text.quoted e.word ++ " is not a valid " ++ e.vocabulary

/-- The meaning of a word. -/
def Vocabulary.read {α : Type u} (v : Vocabulary α) (word : String) :
    Except UnknownWord α :=
  match v.words.lookup word with
  | some meaning => .ok meaning
  | none => .error ⟨word, v.title⟩

end Colloquy
