/-
Lower and upper case of a text, as Unicode defines them for whole texts: a
letter may become several, and a capital sigma becomes the final form at the
end of a word and the plain form elsewhere.

The end of a word is judged by the nearest letters on both sides: characters
that are case-ignorable are passed over, and the sigma is final when there is a
cased letter before it and none after it.
-/
import Colloquy.Text.CaseTable

namespace Colloquy.Text

/-- `n` moved by the run that maps it, if there is one. -/
def mapByRuns (runs : List CaseRun) (n : Nat) : Nat :=
  match runs.find? (·.covers n) with
  | some run => (n + run.offset).toNat
  | none => n

-- ======================================================== lower case

/-- The nearest character that is not case-ignorable is a cased letter. -/
def nextIsCased (text : List Char) : Bool :=
  match text.dropWhile caseIgnorable.covers with
  | [] => false
  | c :: _ => casedLetters.covers c

/-- The lower-case form of one character, apart from the capital sigma. -/
def lowerChar (c : Char) : List Char :=
  if c.toNat < 0x80 then [c.toLower]
  else if c.toNat = 0x130 then ['i', '\u0307']
  else [Char.ofNat (mapByRuns lowerRuns c.toNat)]

/-- The lower-case form of a text; `before` holds, in reverse, what precedes
it. -/
def lowerFrom (before : List Char) : List Char → List Char
  | [] => []
  | c :: rest =>
    (if c = 'Σ' then
      [if nextIsCased before && !nextIsCased rest then 'ς' else 'σ']
    else lowerChar c) ++ lowerFrom (c :: before) rest

/-- The lower-case form of a text. -/
def lower (text : List Char) : List Char := lowerFrom [] text

-- ======================================================== upper case

/-- The upper-case form of one character. -/
def upperChar (c : Char) : List Char :=
  if c.toNat < 0x80 then [c.toUpper]
  else match upperSpecial.lookup c.toNat with
    | some letters => letters.map Char.ofNat
    | none => [Char.ofNat (mapByRuns upperRuns c.toNat)]

/-- The upper-case form of a text. -/
def upper (text : List Char) : List Char := text.flatMap upperChar

end Colloquy.Text
