/-
Code points. A text is a list of characters, but an escape can spell one half
of a surrogate pair alone, which is a code point and no character. In a text
such a half takes up two places: a mark, and a character that stands in for the
half. The mark, where it is meant as itself, stands there twice. So a text can
hold any code points, and there is only one way to read them.

Whatever counts what stands in a text, cuts a text short or shows it escaped,
goes by code points. Neither the mark nor a stand-in is printable or blank or
part of a word, and neither has a case; so all else may go by characters.
-/

namespace Colloquy.Text

-- ======================================================== code points

/-- Whether a code point is half of a surrogate pair. -/
def isHalf (n : Nat) : Bool := 0xd800 ≤ n && n ≤ 0xdfff

/-- Whether a unit of sixteen bits is the first half of a pair. -/
def isFirstHalf (unit : Nat) : Bool := 0xd800 ≤ unit && unit ≤ 0xdbff

/-- Whether a unit of sixteen bits is the second half of a pair. -/
def isSecondHalf (unit : Nat) : Bool := 0xdc00 ≤ unit && unit ≤ 0xdfff

/-- The code point of a pair. -/
def pairPoint (first second : Nat) : Nat :=
  0x10000 + (first - 0xd800) * 0x400 + (second - 0xdc00)

/-- The mark: the greatest code point, to which no character is assigned. -/
def mark : Char := .ofNat 0x10ffff

/-- How far a stand-in lies above the half that it stands for. -/
def standInOffset : Nat := 0x100000

/-- A code point as it stands in a text. -/
def ofPoint (n : Nat) : List Char :=
  if isHalf n then [mark, .ofNat (n + standInOffset)]
  else if n = mark.toNat then [mark, mark]
  else [.ofNat n]

/-- Code points as a text. -/
def ofPoints (points : List Nat) : List Char := points.flatMap ofPoint

/-- The code point that a mark and the character after it are read as. -/
def pointOfPair (c : Char) : Nat :=
  if c = mark then c.toNat else c.toNat - standInOffset

/-- The code points of a text. -/
def points : List Char → List Nat
  | [] => []
  | [c] => [c.toNat]
  | c :: d :: rest =>
    if c = mark then pointOfPair d :: points rest
    else c.toNat :: points (d :: rest)

-- =========================================================== ranges

/-- Closed ranges of code points. The character classes of this library are
long tables of such ranges, which are only ever asked whether they cover a
character. -/
abbrev Ranges := List (Nat × Nat)

/-- Whether one of the ranges holds the code point of `c`. -/
def Ranges.covers (ranges : Ranges) (c : Char) : Bool :=
  ranges.any fun (first, last) => first ≤ c.toNat && c.toNat ≤ last

/-- A character is covered exactly when its code point lies between the ends
of a listed range. -/
theorem Ranges.covers_iff {ranges : Ranges} {c : Char} :
    ranges.covers c = true
      ↔ ∃ first last, (first, last) ∈ ranges ∧ first ≤ c.toNat
        ∧ c.toNat ≤ last := by
  simp [Ranges.covers, List.any_eq_true]

-- ============================================================ texts

/-- The number of code points of a text. -/
def size (text : List Char) : Nat := (points text).length

/-- The first code points of a text. -/
def takePoints (count : Nat) (text : List Char) : List Char :=
  ofPoints ((points text).take count)

/-- A text of characters alone, each meant as itself. -/
def ofCharacters (characters : List Char) : List Char :=
  ofPoints (characters.map Char.toNat)

/-- A text as characters alone; for each half there is the replacement
character. -/
def characters (text : List Char) : List Char :=
  (points text).map fun n => if isHalf n then '\ufffd' else .ofNat n

/-- Whether a text holds no half of a surrogate pair, so that it can be
encoded. -/
def isWellFormed (text : List Char) : Bool := !(points text).any isHalf

/-- A text as it is shown where it has to be encoded: for each of the three
bytes that a half would take there is the replacement character. -/
def replaceHalves (text : List Char) : List Char :=
  (points text).flatMap fun n =>
    if isHalf n then List.replicate 3 '\ufffd' else ofPoint n

-- =========================================================== reading

/-- The number of a valid code point's character. -/
theorem toNat_ofNat (n : Nat) (h : n.isValidChar) :
    (Char.ofNat n).toNat = n := by
  unfold Char.ofNat
  rw [dif_pos h]
  show (Char.ofNatAux n h).val.toNat = n
  unfold Char.ofNatAux
  have : n < 4294967296 := by rcases h with h | h <;> omega
  simp

/-- The number of the mark. -/
theorem toNat_mark : mark.toNat = 0x10ffff :=
  toNat_ofNat _ (Or.inr ⟨by omega, by omega⟩)

/-- A code point is read back, whatever stands after it. -/
theorem points_ofPoint_append (n : Nat) (h : n < 0x110000) (rest : List Char) :
    points (ofPoint n ++ rest) = n :: points rest := by
  unfold ofPoint
  split
  case isTrue half =>
    have bounds : 0xd800 ≤ n ∧ n ≤ 0xdfff := by simpa [isHalf] using half
    have number : (Char.ofNat (n + standInOffset)).toNat = n + standInOffset :=
      toNat_ofNat _ (Or.inr
        ⟨by simp only [standInOffset]; omega,
          by simp only [standInOffset]; omega⟩)
    have other : Char.ofNat (n + standInOffset) ≠ mark := by
      intro same
      have := congrArg Char.toNat same
      rw [number, toNat_mark] at this
      simp only [standInOffset] at this
      omega
    simp only [List.cons_append, List.nil_append, points, if_true,
      pointOfPair, if_neg other, number, Nat.add_sub_cancel]
  case isFalse whole =>
    have valid : n.isValidChar := by
      have : ¬ (0xd800 ≤ n ∧ n ≤ 0xdfff) := by simpa [isHalf] using whole
      by_cases low : n < 0xd800
      · exact Or.inl low
      · exact Or.inr ⟨by omega, h⟩
    by_cases marked : n = mark.toNat
    case pos =>
      simp only [marked, if_true, List.cons_append, List.nil_append, points,
        pointOfPair]
    case neg =>
      rw [if_neg marked]
      have other : Char.ofNat n ≠ mark := by
        intro same
        have := congrArg Char.toNat same
        rw [toNat_ofNat n valid] at this
        exact marked this
      cases rest <;> simp [points, other, toNat_ofNat n valid]

/-- Code points are read back from the text that they make. -/
theorem points_ofPoints (ns : List Nat) (h : ∀ n ∈ ns, n < 0x110000) :
    points (ofPoints ns) = ns := by
  induction ns with
  | nil => rfl
  | cons n ns ih =>
    rw [show ofPoints (n :: ns) = ofPoint n ++ ofPoints ns from rfl,
      points_ofPoint_append n (h n List.mem_cons_self), ih fun m hm =>
        h m (List.mem_cons_of_mem n hm)]

end Colloquy.Text
