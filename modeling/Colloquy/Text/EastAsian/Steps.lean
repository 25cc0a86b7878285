/-
How characters are read in the encodings of East Asia that look only at what
stands in front. One character takes one, two or more bytes. Bytes below 128
mostly stand for themselves. Others lead on to a place in a grid of characters,
or to a place in an order of code points that has those left over from a grid.
-/
import Colloquy.Text.Decoding
import Colloquy.Text.EastAsian.Chinese
import Colloquy.Text.EastAsian.HongKong
import Colloquy.Text.EastAsian.Japanese
import Colloquy.Text.EastAsian.JapanesePlanes
import Colloquy.Text.EastAsian.Korean
import Colloquy.Text.EastAsian.Taiwanese

namespace Colloquy.Text.EastAsian

-- ============================================================= steps

/-- What comes of reading the front. -/
abbrev Outcome := Except (Nat × Decoding.Reason) (List Nat × Nat)

/-- Code points with the bytes that follow the first, or a fault of the first
byte. -/
def foundAll (points : Option (List Nat)) (following : Nat) : Outcome :=
  match points with
  | some points => .ok (points, following)
  | none => .error (1, .illegalSequence)

/-- A code point with the bytes that follow the first, or a fault of the first
byte. -/
def found (point : Option Nat) (following : Nat) : Outcome :=
  foundAll (point.map ([·])) following

/-- How a character that takes so many bytes after the first is read. -/
def withMore (count : Nat) (rest : List UInt8) (read : List Nat → Outcome) :
    Outcome :=
  if rest.length < count then .error (1 + rest.length, .incompleteSequence)
  else read ((rest.take count).map UInt8.toNat)

/-- How a character of one byte or of two is read, where two bytes may stand
for more than one code point. -/
def pairsStep (single : Nat → Option Nat)
    (pair : Nat → Nat → Option (List Nat)) : Decoding.Step :=
  fun b rest =>
  match single b.toNat with
  | some point => .ok ([point], 0)
  | none => withMore 1 rest fun
    | [c] => foundAll (pair b.toNat c) 1
    | _ => found none 0

/-- How a character of one byte or of two is read. -/
def pairStep (single : Nat → Option Nat) (pair : Nat → Nat → Option Nat) :
    Decoding.Step :=
  pairsStep single fun b c => (pair b c).map ([·])

/-- The bytes below 128, which stand for themselves. -/
def plain (b : Nat) : Option Nat := if b < 0x80 then some b else none

/-- The code point of a grid with two bytes from 161 on. -/
def upper (g : Grid) (b c : Nat) : Option Nat :=
  if 0xa1 ≤ b && 0xa1 ≤ c then g.at? (b - 0xa1) (c - 0xa1) else none

-- =========================================================== Chinese

/-- The ideographs that GB 2312 does not have. -/
def otherIdeographs : Array Nat := chinese.others 0x4e00 0x9fa5

/-- The place of a second byte of GBK, if it is one. -/
def gbkPlace? (c : Nat) : Option Nat :=
  if 0x40 ≤ c && c ≤ 0x7e then some (c - 0x40)
  else if 0x80 ≤ c && c ≤ 0xfe then some (c - 0x41)
  else none

/-- The code point of two bytes in GBK. The ideographs that GB 2312 does not
have come in order, in the rows in front of its own and in the places in front
of its own. -/
def gbk (b c : Nat) : Option Nat := do
  let place ← gbkPlace? c
  if b < 0x81 || 0xfe < b then none
  else
    let ordered : Option Nat :=
      if b ≤ 0xa0 then otherIdeographs[(b - 0x81) * 190 + place]?
      else if 0xaa ≤ b && c ≤ 0xa0 then
        otherIdeographs[6080 + (b - 0xaa) * 96 + place]?
      else none
    (moreChinese.at? (b - 0x81) place).or ((upper chinese b c).or ordered)

/-- The code point of two bytes in GB 18030. There are places for private
use. -/
def gb18030Pair (b c : Nat) : Option Nat := do
  let place ← gbkPlace? c
  let reserved : Option Nat :=
    if 0xaa ≤ b && b ≤ 0xaf && 0xa1 ≤ c then
      some (0xe000 + 94 * (b - 0xaa) + (c - 0xa1))
    else if 0xf8 ≤ b && b ≤ 0xfe && 0xa1 ≤ c then
      some (0xe234 + 94 * (b - 0xf8) + (c - 0xa1))
    else if 0xa1 ≤ b && b ≤ 0xa7 && c ≤ 0xa0 then
      some (0xe4c6 + 96 * (b - 0xa1) + place)
    else none
  if b < 0x81 then none
  else (mostChinese.at? (b - 0x81) place).or ((gbk b c).or reserved)

/-- The code point at an index among ranges that follow on each other. -/
def inRanges (index : Nat) : Ranges → Option Nat
  | [] => none
  | (first, last) :: rest =>
    let size := last + 1 - first
    if index < size then some (first + index) else inRanges (index - size) rest

/-- The code point of four bytes in GB 18030, the second and the fourth being
digits. -/
def gb18030Four (b c d e : Nat) : Option Nat :=
  if d < 0x81 || 0xfe < d || e < 0x30 || 0x39 < e || b < 0x81 || 0xfe < b then
    none
  else
    let index :=
      ((b - 0x81) * 10 + (c - 0x30)) * 1260 + (d - 0x81) * 10 + (e - 0x30)
    if b < 0x85 then inRanges index fourByteRanges
    else
      let point := 0x10000 + (index - 15 * 12600)
      if 0x90 ≤ b && point ≤ 0x10ffff then some point else none

/-- How the front is read in GB 18030. -/
def gb18030Step : Decoding.Step := fun b rest =>
  match plain b.toNat with
  | some point => .ok ([point], 0)
  | none => withMore 1 rest fun more =>
    if more.any fun c => 0x30 ≤ c && c ≤ 0x39 then
      withMore 3 rest fun
        | [c, d, e] => found (gb18030Four b.toNat c d e) 3
        | _ => found none 0
    else match more with
      | [c] => found (gb18030Pair b.toNat c) 1
      | _ => found none 0

/-- The place of a second byte of Big5, if it is one. -/
def big5Place? (c : Nat) : Option Nat :=
  if 0x40 ≤ c && c ≤ 0x7e then some (c - 0x40)
  else if 0xa1 ≤ c && c ≤ 0xfe then some (c - 0xa1 + 63)
  else none

/-- The code point of two bytes in a grid of Big5. -/
def big5 (g : Grid) (b c : Nat) : Option Nat := do
  let place ← big5Place? c
  if b < 0xa1 then none else g.at? (b - 0xa1) place

/-- The code points of two bytes in the form that Hong Kong has. Three rows of
it are wholly its own, but for the front of the first. -/
def hongKongPair (b c : Nat) : Option (List Nat) := do
  let place ← big5Place? c
  if b < 0x87 then none
  else
    let own := hongKong.at? (b - 0x87) place
    let isOwn := 0xc6 ≤ b && b ≤ 0xc8 && (0xc6 < b || 0xa1 ≤ c)
    let point := if isOwn then own else (big5 taiwanese b c).or own
    (point.map ([·])).or (pairAt? hongKongPairs (b - 0x87) place)

-- ========================================================== Japanese

/-- The code point of a syllable in a single byte. -/
def syllable (b : Nat) : Option Nat :=
  if 0xa1 ≤ b && b ≤ 0xdf then some (b + 0xfec0) else none

/-- The row and the place of two bytes in Shift JIS, which has two rows to a
first byte. -/
def shiftedPlace? (b c : Nat) : Option (Nat × Nat) := do
  let row ← if 0x81 ≤ b && b ≤ 0x9f then some (2 * (b - 0x81))
    else if 0xe0 ≤ b && b ≤ 0xfc then some (2 * (b - 0xc1)) else none
  let place ← if 0x40 ≤ c && c ≤ 0x7e then some (c - 0x40)
    else if 0x80 ≤ c && c ≤ 0xfc then some (c - 0x41) else none
  return if place < 94 then (row, place) else (row + 1, place - 94)

/-- The bytes that stand for a character by themselves in Shift JIS. -/
def shiftedSingle (b : Nat) : Option Nat := (plain b).or (syllable b)

/-- How the front is read in Shift JIS. Bytes from 0xeb on start nothing. -/
def shiftedStep : Decoding.Step := fun b rest =>
  if (0x81 ≤ b.toNat && b.toNat ≤ 0x9f)
    || (0xe0 ≤ b.toNat && b.toNat ≤ 0xea) then
    pairStep (fun _ => none) (fun b c => do
      let (row, place) ← shiftedPlace? b c
      japanese.at? row place) b rest
  else found (shiftedSingle b.toNat) 0

/-- The bytes that stand for a character by themselves in the form that Windows
has. -/
def windowsSingle (b : Nat) : Option Nat :=
  if b ≤ 0x80 then some b
  else if b = 0xa0 then some 0xf8f0
  else if 0xfd ≤ b then some (0xf8f1 + (b - 0xfd))
  else syllable b

/-- The code point of two bytes in the form that Windows has. There are rows
for private use. -/
def windowsPair (b c : Nat) : Option Nat := do
  let (row, place) ← shiftedPlace? b c
  if 0xf0 ≤ b && b ≤ 0xf9 then
    some (0xe000 + 94 * (row - 2 * (0xf0 - 0xc1)) + place)
  else
    (windowsJapanese.at? row place).or
      (if b ≤ 0xea then japanese.at? row place else none)

/-- How the front is read in the Japanese form of EUC, in which a byte may
announce a syllable or a character of the second grid. -/
def eucJapaneseStep : Decoding.Step := fun b rest =>
  if b = 0x8f then
    withMore 2 rest fun
      | [c, d] => found (upper moreJapanese c d) 2
      | _ => found none 0
  else pairStep plain (fun b c =>
    if b = 0x8e then syllable c
    else if b = 0xa1 && c = 0xc0 then some 0xff3c
    else upper japanese b c) b rest

/-- Whether a place of the first plane was filled later, in 2004. -/
def isLaterPlace (row place : Nat) : Bool :=
  [(13, 0), (14, 93), (46, 51), (46, 93), (83, 6), (93, 89), (93, 90),
    (93, 91), (93, 92), (93, 93)].contains
    (row, place)

/-- The code points at a place in the first plane. -/
def inFirstPlane (row place : Nat) : Option (List Nat) :=
  (((japanese.at? row place).or (firstPlane.at? row place)).map ([·])).or
    (pairAt? firstPlanePairs row place)

/-- The outcome of two bytes that lead to a place in the first plane. Both are
at fault where the earlier form does not have it. -/
def foundInFirstPlane (isLater : Bool) (row place : Nat) : Outcome :=
  if !isLater && isLaterPlace row place then .error (2, .illegalSequence)
  else foundAll (inFirstPlane row place) 1

/-- The code point at a place in the second plane, in its later or its earlier
form. -/
def inSecondPlane (isLater : Bool) (row place : Nat) : Option Nat :=
  if !isLater && row = 92 && place = 26 then some 0x9b1d
  else secondPlane.at? row place

/-- How the front is read in the Japanese form of EUC with the two planes. What
the second plane does not have may be a character of JIS X 0212. -/
def eucPlanesStep (isLater : Bool) : Decoding.Step := fun b rest =>
  match plain b.toNat with
  | some point => .ok ([point], 0)
  | none =>
    if b = 0x8f then
      withMore 2 rest fun
        | [c, d] =>
          if c < 0xa1 || d < 0xa1 then found none 0
          else
            found ((inSecondPlane isLater (c - 0xa1) (d - 0xa1)).or
              (upper moreJapanese c d)) 2
        | _ => found none 0
    else withMore 1 rest fun
      | [c] =>
        if b = 0x8e then found (syllable c) 1
        else if b.toNat < 0xa1 || c < 0xa1 then found none 0
        else foundInFirstPlane isLater (b.toNat - 0xa1) (c - 0xa1)
      | _ => found none 0

/-- The bytes that stand for a character by themselves in Shift JIS with the
two planes, which has signs of its own for money and for length. -/
def signedSingle (b : Nat) : Option Nat :=
  if b = 0x5c then some 0xa5 else if b = 0x7e then some 0x203e else shiftedSingle b

/-- The row of the second plane that stands so far behind the first plane in
Shift JIS. -/
def secondPlaneRow (row : Nat) : Nat :=
  if 103 ≤ row then row - 26 else if 99 ≤ row || row = 95 then row - 88 else row - 94

/-- How the front is read in Shift JIS with the two planes. Two of its places
stand for plain signs. -/
def shiftedPlanesStep (isLater : Bool) : Decoding.Step := fun b rest =>
  if (0x81 ≤ b.toNat && b.toNat ≤ 0x9f)
    || (0xe0 ≤ b.toNat && b.toNat ≤ 0xfc) then
    withMore 1 rest fun
      | [c] =>
        match shiftedPlace? b.toNat c with
        | none => found none 0
        | some (0, 31) => found (some 0x5c) 1
        | some (1, 17) => found (some 0x7e) 1
        | some (row, place) =>
          if row < 94 then foundInFirstPlane isLater row place
          else found (inSecondPlane isLater (secondPlaneRow row) place) 1
      | _ => found none 0
  else found (signedSingle b.toNat) 0

-- ============================================================ Korean

/-- The syllables that KS X 1001 does not have. -/
def otherSyllables : Array Nat := korean.others 0xac00 0xd7a3

/-- The place of a second byte beside KS X 1001, if it is one. -/
def koreanPlace? (c : Nat) : Option Nat :=
  if 0x41 ≤ c && c ≤ 0x5a then some (c - 0x41)
  else if 0x61 ≤ c && c ≤ 0x7a then some (c - 0x61 + 26)
  else if 0x81 ≤ c && c ≤ 0xfe then some (c - 0x81 + 52)
  else none

/-- The code point of two bytes in the Korean form that Windows has. The
syllables that KS X 1001 does not have come in order, in the rows in front of
its own and in the places in front of its own. -/
def windowsKorean (b c : Nat) : Option Nat :=
  (upper korean b c).or do
    let place ← koreanPlace? c
    if 0x81 ≤ b && b ≤ 0xa0 then otherSyllables[(b - 0x81) * 178 + place]?
    else if 0xa1 ≤ b && b ≤ 0xc6 && c ≤ 0xa0 then
      otherSyllables[32 * 178 + (b - 0xa1) * 84 + place]?
    else none

/-- The letters that start a syllable, by their places in KS X 1001. -/
def initials : List (Nat × Nat) :=
  [0xa1, 0xa2, 0xa4, 0xa7, 0xa8, 0xa9, 0xb1, 0xb2, 0xb3, 0xb5, 0xb6, 0xb7,
    0xb8, 0xb9, 0xba, 0xbb,
    0xbc, 0xbd, 0xbe].zipIdx

/-- The letters that end a syllable, by their places in KS X 1001; the filler
ends it with none. -/
def finals : List (Nat × Nat) :=
  [0xd4, 0xa1, 0xa2, 0xa3, 0xa4, 0xa5, 0xa6, 0xa7, 0xa9, 0xaa, 0xab, 0xac,
    0xad, 0xae, 0xaf, 0xb0,
    0xb1, 0xb2, 0xb4, 0xb5, 0xb6, 0xb7, 0xb8, 0xba, 0xbb, 0xbc, 0xbd,
      0xbe].zipIdx

/-- The syllable made up of three letters, behind a filler. -/
def composed : List Nat → Option Nat
  | [_, 0xa4, initial, 0xa4, vowel, 0xa4, final] => do
    let initial ← initials.lookup initial
    let final ← finals.lookup final
    if 0xbf ≤ vowel && vowel ≤ 0xd3 then
      some (0xac00 + initial * 588 + (vowel - 0xbf) * 28 + final)
    else none
  | _ => none

/-- How the front is read in the Korean form of EUC. -/
def eucKoreanStep : Decoding.Step := fun b rest =>
  if b = 0xa4 && rest.head? = some 0xd4 then
    withMore 7 rest fun more => found (composed more) 7
  else pairStep plain (upper korean) b rest

/-- The letter of the first part of a syllable in Johab; the filler is none. -/
def johabInitial (n : Nat) : Option (Option Nat) :=
  if n = 1 then some none else if 2 ≤ n && n ≤ 20 then some (some (n - 2)) else none

/-- The vowel of a syllable in Johab; the filler is none. -/
def johabVowel (n : Nat) : Option (Option Nat) :=
  if n = 2 then some none
  else if 3 ≤ n && n ≤ 7 then some (some (n - 3))
  else if 10 ≤ n && n ≤ 15 then some (some (n - 5))
  else if 18 ≤ n && n ≤ 23 then some (some (n - 7))
  else if 26 ≤ n && n ≤ 29 then some (some (n - 9))
  else none

/-- The letter of the last part of a syllable in Johab; the filler is none. -/
def johabFinal (n : Nat) : Option (Option Nat) :=
  if n = 1 then some none
  else if 2 ≤ n && n ≤ 17 then some (some (n - 1))
  else if 19 ≤ n && n ≤ 29 then some (some (n - 2))
  else none

/-- The code point of a letter that stands alone, by its place in KS X 1001. -/
def letterAt (place : Nat) : Nat := 0x3131 + (place - 0xa1)

/-- The letter in a list of them by its number. -/
def letterOf (letters : List (Nat × Nat)) (n : Nat) : Option Nat :=
  (letters.find? fun (_, number) => number = n).map fun (place, _) =>
    letterAt place

/-- The code point of the parts of a syllable in Johab: a syllable, a letter or
a space. -/
def johabSyllable : Option Nat → Option Nat → Option Nat → Option Nat
  | some initial, some vowel, final =>
    some (0xac00 + initial * 588 + vowel * 28 + final.getD 0)
  | some initial, none, none => letterOf initials initial
  | none, some vowel, none => some (letterAt 0xbf + vowel)
  | none, none, some final => letterOf finals final
  | none, none, none => some 0x3000
  | _, _, _ => none

/-- The code point of two bytes in Johab. Below a first byte of 0xd8 they hold
the parts of a syllable; from there on they lead to a place in KS X 1001, which
has two rows to a first byte. -/
def johab (b c : Nat) : Option Nat :=
  if b < 0xd8 then do
    let initial ← johabInitial (b / 4 % 32)
    let vowel ← johabVowel (b % 4 * 8 + c / 32)
    let final ← johabFinal (c % 32)
    johabSyllable initial vowel final
  else
    if b = 0xd8 || b = 0xdf || 0xf9 < b || c < 0x31 || (0x80 ≤ c && c < 0x91)
      || c % 128 = 0x7f
      || (b = 0xda && 0xa1 ≤ c && c ≤ 0xd3) then none
  else
    let row := if b < 0xe0 then 2 * (b - 0xd9) else 2 * b - 0x197
    let place := if c < 0x91 then c - 0x31 else c - 0x43
    if place < 94 then korean.at? row place
    else korean.at? (row + 1) (place - 94)

end Colloquy.Text.EastAsian
