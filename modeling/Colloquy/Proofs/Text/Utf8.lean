/-
UTF-8 written and read back. The bytes of a code point are read as that code
point, whatever stands behind them (`step_encodePoint`), and reading a text
only counts the steps (`decode_encode`). Halves of surrogate pairs have bytes
of the same make, which reading refuses; so a text is read back if it holds
none (`IsWhole`).
-/
import Colloquy.Proofs.Text.Points
import Colloquy.Text.Utf8

namespace Colloquy.Text.Utf8

-- ========================================================== one code point

/-- The number of `UInt8.ofNat n`, if it fits. -/
theorem toNat_byte {n : Nat} (h : n < 0x100) : (UInt8.ofNat n).toNat = n :=
  UInt8.toNat_ofNat_of_lt' h

/-- One step of `continued`: a byte in its range carries six more bits. -/
theorem continued_cons {following least greatest bits byte code : Nat}
    {rest : List UInt8} (hbyte : byte < 0x100)
    (hrange : least ≤ byte ∧ byte ≤ greatest)
    (h : continued ⟨following, 0x80, 0xbf, bits * 0x40 + (byte - 0x80)⟩ rest
      = .ok code) :
    continued ⟨following + 1, least, greatest, bits⟩ (.ofNat byte :: rest)
      = .ok code := by
  rw [continued, toNat_byte hbyte, if_pos hrange, h]

/-- A byte that starts a longer `form?` is read with what continues it. -/
theorem step_form {byte code : Nat} {form : Form} {rest : List UInt8}
    (hbyte : byte < 0x100) (hlong : 0x80 ≤ byte)
    (hform : form? byte = some form) (h : continued form rest = .ok code) :
    step (.ofNat byte) rest = .ok ([code], form.following) := by
  unfold step
  rw [toNat_byte hbyte, if_neg (Nat.not_lt.2 hlong), hform]
  dsimp only
  rw [h]

/-- The `form?` of three bytes, and the range of its second byte: it keeps out
what has a shorter form, and the halves. -/
theorem form?_three {n : Nat} (hlow : 0x800 ≤ n) (hhigh : n < 0x10000)
    (hwhole : isHalf n = false) :
    ∃ least greatest, form? (0xe0 + n / 0x1000)
        = some ⟨2, least, greatest, n / 0x1000⟩
      ∧ least ≤ 0x80 + n / 0x40 % 0x40
        ∧ 0x80 + n / 0x40 % 0x40 ≤ greatest := by
  have hwhole : n < 0xd800 ∨ 0xdfff < n := by
    simp only [isHalf, Bool.and_eq_false_iff,
      decide_eq_false_iff_not] at hwhole
    omega
  unfold form?
  rw [if_neg (by omega)]
  by_cases hfirst : 0xe0 + n / 0x1000 = 0xe0
  · refine ⟨0xa0, 0xbf, ?_, by omega, by omega⟩
    rw [if_pos hfirst, show n / 0x1000 = 0 by omega]
  rw [if_neg hfirst]
  by_cases hlast : 0xe0 + n / 0x1000 = 0xed
  · refine ⟨0x80, 0x9f, ?_, by omega, by omega⟩
    rw [if_pos hlast, show n / 0x1000 = 0xd by omega]
  rw [if_neg hlast, if_pos (by omega)]
  refine ⟨0x80, 0xbf, ?_, by omega, by omega⟩
  rw [show 0xe0 + n / 0x1000 - 0xe0 = n / 0x1000 by omega]

/-- The `form?` of four bytes, and the range of its second byte: it keeps out
what has a shorter form, and what is too great. -/
theorem form?_four {n : Nat} (hlow : 0x10000 ≤ n) (hhigh : n < 0x110000) :
    ∃ least greatest, form? (0xf0 + n / 0x40000)
        = some ⟨3, least, greatest, n / 0x40000⟩
      ∧ least ≤ 0x80 + n / 0x1000 % 0x40
      ∧ 0x80 + n / 0x1000 % 0x40 ≤ greatest := by
  unfold form?
  rw [if_neg (by omega), if_neg (by omega), if_neg (by omega),
    if_neg (by omega)]
  by_cases hfirst : 0xf0 + n / 0x40000 = 0xf0
  · refine ⟨0x90, 0xbf, ?_, by omega, by omega⟩
    rw [if_pos hfirst, show n / 0x40000 = 0 by omega]
  rw [if_neg hfirst]
  by_cases hlast : 0xf0 + n / 0x40000 = 0xf4
  · refine ⟨0x80, 0x8f, ?_, by omega, by omega⟩
    rw [if_neg (by omega), if_pos hlast, show n / 0x40000 = 4 by omega]
  rw [if_pos (by omega)]
  refine ⟨0x80, 0xbf, ?_, by omega, by omega⟩
  rw [show 0xf0 + n / 0x40000 - 0xf0 = n / 0x40000 by omega]

/-- The bytes that `encodePoint` gives for a code point that is no half are
read as it in one step. -/
theorem step_encodePoint {n : Nat} (hn : n < 0x110000)
    (hwhole : isHalf n = false) :
    ∃ first more, encodePoint n = first :: more
      ∧ ∀ rest, step first (more ++ rest) = .ok ([n], more.length) := by
  unfold encodePoint
  by_cases hone : n < 0x80
  · rw [if_pos hone]
    refine ⟨_, [], rfl, fun rest => ?_⟩
    unfold step
    rw [toNat_byte (by omega), if_pos hone]
    rfl
  rw [if_neg hone]
  by_cases htwo : n < 0x800
  · rw [if_pos htwo]
    refine ⟨_, _, rfl, fun rest => ?_⟩
    have hform : form? (0xc0 + n / 0x40) = some ⟨1, 0x80, 0xbf, n / 0x40⟩ := by
      unfold form?
      rw [if_pos (by omega), show 0xc0 + n / 0x40 - 0xc0 = n / 0x40 by omega]
    refine step_form (by omega) (by omega) hform ?_
    refine continued_cons (by omega) (by omega) ?_
    rw [continued]
    exact congrArg Except.ok (by omega)
  rw [if_neg htwo]
  by_cases hthree : n < 0x10000
  · rw [if_pos hthree]
    refine ⟨_, _, rfl, fun rest => ?_⟩
    obtain ⟨least, greatest, hform, hrange⟩ :=
      form?_three (Nat.le_of_not_lt htwo) hthree hwhole
    refine step_form (by omega) (by omega) hform ?_
    refine continued_cons (by omega) hrange ?_
    refine continued_cons (by omega) (by omega) ?_
    rw [continued]
    exact congrArg Except.ok (by omega)
  · rw [if_neg hthree]
    refine ⟨_, _, rfl, fun rest => ?_⟩
    obtain ⟨least, greatest, hform, hrange⟩ :=
      form?_four (Nat.le_of_not_lt hthree) hn
    refine step_form (by omega) (by omega) hform ?_
    refine continued_cons (by omega) hrange ?_
    refine continued_cons (by omega) (by omega) ?_
    refine continued_cons (by omega) (by omega) ?_
    rw [continued]
    exact congrArg Except.ok (by omega)

-- ============================================================ whole texts

/-- Bytes that belong to what was read are skipped by `decodeFrom`. -/
theorem decodeFrom_skip (step : Decoding.Step) (text : List Char)
    (more rest : List UInt8) : ∀ position,
    Decoding.decodeFrom label step text position more.length (more ++ rest)
      = Decoding.decodeFrom label step text (position + more.length) 0
        rest := by
  induction more with
  | nil => exact fun _ => rfl
  | cons byte more ih =>
      intro position
      rw [List.cons_append, List.length_cons, Decoding.decodeFrom, ih]
      congr 1
      omega

/-- The bytes of code points are read by `decodeFrom` one code point after
another. -/
theorem decodeFrom_encoded {ns : List Nat}
    (h : ∀ n ∈ ns, n < 0x110000 ∧ isHalf n = false) :
    ∀ text position,
      Decoding.decodeFrom label step text position 0 (ns.flatMap encodePoint)
        = .ok (text.reverse ++ ofPoints ns) := by
  induction ns with
  | nil =>
      intro text position
      show Except.ok text.reverse = _
      rw [show ofPoints [] = [] from rfl, List.append_nil]
  | cons n ns ih =>
      intro text position
      obtain ⟨⟨hn, hwhole⟩, hmore⟩ := List.forall_mem_cons.1 h
      obtain ⟨first, more, hbytes, hstep⟩ := step_encodePoint hn hwhole
      rw [List.flatMap_cons, hbytes, List.cons_append, Decoding.decodeFrom,
        hstep]
      dsimp only
      rw [decodeFrom_skip, ih hmore, List.reverse_append, List.reverse_reverse,
        List.append_assoc]
      unfold ofPoints
      rw [List.flatMap_cons, List.flatMap_cons, List.flatMap_nil,
        List.append_nil]

/-- The text holds no half of a surrogate pair. -/
structure IsWhole (text : List Char) : Prop where
  isText : IsText text
  wellFormed : isWellFormed text = true

/-- Texts that are `IsWhole` are what `ofPoints` gives for code points that are
no halves. -/
theorem isWhole_iff {text : List Char} :
    IsWhole text ↔ ∃ ns : List Nat,
      (∀ n ∈ ns, n < 0x110000 ∧ isHalf n = false) ∧ text = ofPoints ns := by
  constructor
  · rintro ⟨htext, hwell⟩
    obtain ⟨ns, hns, rfl⟩ := isText_iff.1 htext
    rw [isWellFormed, points_ofPoints ns hns, Bool.not_eq_true',
      List.any_eq_false] at hwell
    exact ⟨ns, fun n hn => ⟨hns n hn, Bool.eq_false_iff.2 (hwell n hn)⟩, rfl⟩
  · rintro ⟨ns, hns, rfl⟩
    have hlow : ∀ n ∈ ns, n < 0x110000 := fun n hn => (hns n hn).1
    refine ⟨isText_iff.2 ⟨ns, hlow, rfl⟩, ?_⟩
    rw [isWellFormed, points_ofPoints ns hlow, Bool.not_eq_true',
      List.any_eq_false]
    exact fun n hn => Bool.eq_false_iff.1 (hns n hn).2

/-- Decoding undoes encoding: a text that `IsWhole` comes back from its bytes.
-/
theorem decode_encode {text : List Char} (h : IsWhole text) :
    decode (encode text) = .ok text := by
  obtain ⟨ns, hns, rfl⟩ := isWhole_iff.1 h
  unfold decode Decoding.decode encode
  rw [points_ofPoints ns fun n hn => (hns n hn).1]
  exact decodeFrom_encoded hns [] 0

-- ====================================================== texts put together

theorem IsWhole.append {text more : List Char} (h : IsWhole text)
    (hmore : IsWhole more) : IsWhole (text ++ more) := by
  refine ⟨h.isText.append hmore.isText, ?_⟩
  have hwell := h.wellFormed
  have hwell' := hmore.wellFormed
  unfold isWellFormed at hwell hwell' ⊢
  rw [Bool.not_eq_true'] at hwell hwell' ⊢
  rw [h.isText.points_append, List.any_append, hwell, hwell', Bool.or_self]

theorem isWhole_nil : IsWhole [] := ⟨.nil, rfl⟩

theorem isWhole_feed : IsWhole ['\n'] :=
  ⟨isText_of_unmarked (by decide), rfl⟩

/-- The bytes of a text and of what stands behind it (`encode`). -/
theorem IsWhole.encode_append {text : List Char} (h : IsWhole text)
    (rest : List Char) :
    encode (text ++ rest) = encode text ++ encode rest := by
  unfold encode
  rw [h.isText.points_append, List.flatMap_append]

/-- Joining texts by line feeds keeps them `IsWhole`, and joins their bytes by
that of a line feed. -/
theorem isWhole_intercalate {texts : List (List Char)}
    (h : ∀ text ∈ texts, IsWhole text) :
    IsWhole (['\n'].intercalate texts)
      ∧ encode (['\n'].intercalate texts)
        = [0x0a].intercalate (texts.map encode) := by
  induction texts with
  | nil => exact ⟨isWhole_nil, rfl⟩
  | cons text texts ih =>
      obtain ⟨hfirst, hmore⟩ := List.forall_mem_cons.1 h
      obtain ⟨hrest, hbytes⟩ := ih hmore
      cases texts with
      | nil =>
          rw [List.map_singleton, List.intercalate_singleton,
            List.intercalate_singleton]
          exact ⟨hfirst, rfl⟩
      | cons next texts =>
          rw [List.map_cons, List.map_cons, List.intercalate_cons_cons,
            List.intercalate_cons_cons, ← List.map_cons, ← hbytes,
            List.append_assoc, List.append_assoc]
          refine ⟨hfirst.append (isWhole_feed.append hrest), ?_⟩
          rw [hfirst.encode_append, isWhole_feed.encode_append]
          rfl

end Colloquy.Text.Utf8
