/-
The encodings of East Asia in which only bytes below 128 stand for characters.
What they stand for changes on the way: sequences that start with an escape, or
in one encoding with a tilde, switch to another set of characters and back.
-/
import Colloquy.Text.CodePage
import Colloquy.Text.EastAsian.Steps

namespace Colloquy.Text.EastAsian

universe u

-- ============================================================= steps

/-- How the front is read when the state counts: the code points, the number of
bytes after the first that belong to them and the state behind them, or a
fault. -/
abbrev SwitchStep (State : Type u) :=
  State → UInt8 → List UInt8
    → Except (Nat × Decoding.Reason) (List Nat × Nat × State)

/-- The text of the bytes after the first `skip`, from a state on. `position`
is that of the front, and `text` holds, in reverse, what has been read. -/
def decodeSwitching {State : Type u} (label : String) (step : SwitchStep State)
    (state : State)
    (text : List Char) (position : Nat) : Nat → List UInt8
      → Except Decoding.Fault (List Char)
  | _, [] => .ok text.reverse
  | skip + 1, _ :: rest =>
    decodeSwitching label step state text (position + 1) skip rest
  | 0, b :: rest =>
    match step state b rest with
    | .ok (points, following, state) =>
      decodeSwitching label step state ((ofPoints points).reverse ++ text)
        (position + 1) following rest
    | .error (length, reason) =>
      .error { label, position, bytes := (b :: rest).take length, reason }

/-- What comes of the front where it leaves the state as it is. -/
def staying {State : Type u} (state : State) (outcome : Outcome) :
    Except (Nat × Decoding.Reason) (List Nat × Nat × State) :=
  outcome.map fun (points, following) => (points, following, state)

-- ============================================================= tilde

/-- How the front is read where a tilde switches to the characters of GB 2312
and back. The state says whether it is they that are read. A tilde stands for
itself when it is doubled, and takes away a line end behind it. -/
def tildeStep : SwitchStep Bool := fun inGrid b rest =>
  if b = 0x7e then
    match inGrid, rest with
    | _, [] => .error (1, .incompleteSequence)
    | false, 0x7e :: _ => .ok ([0x7e], 1, false)
    | false, 0x7b :: _ => .ok ([], 1, true)
    | false, 0x0a :: _ => .ok ([], 1, false)
    | true, 0x7d :: _ => .ok ([], 1, false)
    | _, _ => .error (1, .illegalSequence)
  else if 0x80 ≤ b.toNat then .error (1, .illegalSequence)
  else if !inGrid then .ok ([b.toNat], 0, false)
  else staying inGrid (withMore 1 rest fun
    | [c] => found (upper chinese (b.toNat + 0x80) (c + 0x80)) 1
    | _ => found none 0)

-- ============================================================ escape

/-- A set of characters that can be switched to. -/
inductive CharacterSet
  | ascii
  | roman
  | katakana
  | latin
  | greek
  | japanese
  | oldJapanese
  | moreJapanese
  | korean
  | chinese
  | firstPlane (isLater : Bool)
  | secondPlane
deriving DecidableEq, Repr

namespace CharacterSet

/-- Whether a character takes two bytes, and the letter that a set is announced
with. -/
def mark : CharacterSet → Bool × Char
  | .ascii => (false, 'B')
  | .roman => (false, 'J')
  | .katakana => (false, 'I')
  | .latin => (false, 'A')
  | .greek => (false, 'F')
  | .japanese => (true, 'B')
  | .oldJapanese => (true, '@')
  | .moreJapanese => (true, 'D')
  | .korean => (true, 'C')
  | .chinese => (true, 'A')
  | .firstPlane false => (true, 'O')
  | .firstPlane true => (true, 'Q')
  | .secondPlane => (true, 'P')

/-- The code points of a character. The Latin and the Greek letters are only
read one at a time. -/
def points : CharacterSet → List Nat → Option (List Nat)
  | .ascii, [b] => some [b]
  | .roman, [b] =>
    some [if b = 0x5c then 0xa5 else if b = 0x7e then 0x203e else b]
  | .katakana, [b] => (syllable (b + 0x80)).map ([·])
  | .japanese, [b, c] | .oldJapanese, [b, c] =>
    (upper EastAsian.japanese (b + 0x80) (c + 0x80)).map ([·])
  | .moreJapanese, [b, c] =>
    (upper EastAsian.moreJapanese (b + 0x80) (c + 0x80)).map ([·])
  | .korean, [b, c] => (upper EastAsian.korean (b + 0x80) (c + 0x80)).map ([·])
  | .chinese, [b, c] =>
    (upper EastAsian.chinese (b + 0x80) (c + 0x80)).map ([·])
  | .firstPlane isLater, [b, c] =>
    if b < 0x21 || c < 0x21
      || (!isLater && isLaterPlace (b - 0x21) (c - 0x21)) then none
    else if b = 0x22 && c = 0x32 then some [0x7e]
    else inFirstPlane (b - 0x21) (c - 0x21)
  | .secondPlane, [b, c] =>
    if b < 0x21 || c < 0x21 then none
    else (inSecondPlane true (b - 0x21) (c - 0x21)).map ([·])
  | _, _ => none

/-- The code point of a Greek letter. The code page has three signs that are
younger. -/
def greekLetter (b : Nat) : Option Nat :=
  if [0xa4, 0xa5, 0xaa].contains b then none
  else (CodePage.named? "iso8859_7").bind fun page => page.pointOf b

/-- The code point of a letter that is read one at a time. -/
def letter : CharacterSet → Nat → Option Nat
  | .latin, b => if b < 0x80 then some (b + 0x80) else none
  | .greek, b => greekLetter (if b < 0x80 then b + 0x80 else b - 0x80)
  | .ascii, b => plain b
  | _, _ => none

end CharacterSet

/-- What an encoding with escapes has: its sets of characters beside the plain
one, and whether there are shifts to the second set, letters of a third one,
and a sign in front of the newer Japanese characters. -/
structure Repertoire where
  sets : List CharacterSet
  shifts : Bool := false
  hasThird : Bool := false
  hasSign : Bool := true

/-- The sets that have been switched to, whether the second one is read, and
whether bytes are passed on up to the end of a sequence that is not known. -/
structure Switched where
  first : CharacterSet := .ascii
  second : CharacterSet := .ascii
  third : CharacterSet := .ascii
  isShifted : Bool := false
  passesOn : Bool := false
deriving DecidableEq, Repr

/-- Where an escape sequence ends: it has so many bytes, it is cut short, or it
does not end. -/
inductive SequenceEnd
  | length (n : Nat)
  | cut
  | unending
deriving DecidableEq, Repr

/-- Whether a byte ends an escape sequence. -/
def endsSequence (b : UInt8) : Bool :=
  (0x41 ≤ b.toNat && b.toNat ≤ 0x5a) || b = 0x40

/-- Where an escape sequence ends, of which `taken` bytes have been looked at
and `skip` are to be passed over. At most sixteen bytes belong to it. -/
def sequenceEnd (hasSign : Bool) (taken skip : Nat) : List UInt8 → SequenceEnd
  | [] => if 16 ≤ taken + skip then .unending else .cut
  | b :: rest =>
    if 16 ≤ taken + skip then .unending
    else match skip with
      | skip + 1 => sequenceEnd hasSign (taken + 1) skip rest
      | 0 =>
        if endsSequence b then .length (taken + 1)
        else
          let isSign := hasSign && b = 0x26 && rest.head? = some 0x40
          sequenceEnd hasSign (taken + 1) (if isSign then 2 else 0) rest

namespace Repertoire

/-- The set with a mark. -/
def set? (r : Repertoire) (isPair : Bool) (letter : UInt8) :
    Option CharacterSet :=
  (CharacterSet.ascii :: r.sets).find? fun s =>
    s.mark = (isPair, Char.ofNat letter.toNat)

/-- What an escape sequence switches to. -/
def switch? (r : Repertoire) (state : Switched) : List UInt8 → Option Switched
  | [0x24, letter] =>
    (r.set? true letter).map fun s => { state with first := s }
  | [0x28, letter] =>
    (r.set? false letter).map fun s => { state with first := s }
  | [0x29, letter] =>
    (r.set? false letter).map fun s => { state with second := s }
  | [0x2e, letter] =>
    if r.hasThird then
      (r.set? false letter).map fun s => { state with third := s }
    else none
  | [0x24, 0x28, letter] =>
    (r.set? true letter).map fun s => { state with first := s }
  | [0x24, 0x29, letter] =>
    (r.set? true letter).map fun s => { state with second := s }
  | [_, _, 0x1b, 0x24, 0x42] =>
    if r.hasSign then some { state with first := .japanese } else none
  | _ => none

/-- How the front is read after an escape. -/
def afterEscape (r : Repertoire) (state : Switched) (rest : List UInt8) :
    Except (Nat × Decoding.Reason) (List Nat × Nat × Switched) :=
  match rest with
  | [] => .error (1, .incompleteSequence)
  | c :: more =>
    if [0x28, 0x29, 0x24, 0x2e, 0x26].contains c then
      match sequenceEnd r.hasSign 1 0 rest with
      | .cut => .error (1 + rest.length, .incompleteSequence)
      | .unending => .error (1, .illegalSequence)
      | .length n =>
        match r.switch? state (rest.take (n - 1)) with
        | some state => .ok ([], n - 1, state)
        | none => .error (n, .illegalSequence)
    else if r.hasThird && c = 0x4e then
      match more with
      | [] => .error (2, .incompleteSequence)
      | d :: _ =>
        match state.third.letter d.toNat with
        | some point => .ok ([point], 2, state)
        | none => .error (3, .illegalSequence)
    else .ok ([0x1b], 0, { state with passesOn := true })

/-- How the front is read. A line end ends a shift. -/
def step (r : Repertoire) : SwitchStep Switched := fun state b rest =>
  if state.passesOn then
    .ok ([b.toNat], 0, { state with passesOn := !endsSequence b })
  else if b = 0x1b then r.afterEscape state rest
  else if r.shifts && b = 0x0f then
    .ok ([], 0, { state with isShifted := false })
  else if r.shifts && b = 0x0e then
    .ok ([], 0, { state with isShifted := true })
  else if b = 0x0a then .ok ([0x0a], 0, { state with isShifted := false })
  else if b.toNat < 0x20 then .ok ([b.toNat], 0, state)
  else if 0x80 ≤ b.toNat then .error (1, .illegalSequence)
  else
    let set := if state.isShifted then state.second else state.first
    staying state <|
      if set.mark.1 then withMore 1 rest fun more =>
        (foundAll (set.points (b.toNat :: more)) 1).mapError fun (_, reason) =>
          (2, reason)
      else foundAll (set.points [b.toNat]) 0

end Repertoire

-- ======================================================== encodings

/-- The text of bytes with tildes. -/
def decodeTildes (bytes : List UInt8) : Except Decoding.Fault (List Char) :=
  decodeSwitching "hz" tildeStep false [] 0 0 bytes

/-- The text of bytes with escapes. -/
def decodeEscapes (label : String) (r : Repertoire) (bytes : List UInt8) :
    Except Decoding.Fault (List Char) :=
  decodeSwitching label r.step {} [] 0 0 bytes

end Colloquy.Text.EastAsian
