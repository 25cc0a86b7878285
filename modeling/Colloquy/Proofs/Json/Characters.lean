/-
The characters of JSON text. What escaping leaves as it is, and all that is
written around it, stands at the space or beyond, so the text of a plain
value holds no control character below it. The line ends beyond that range,
the next line and the two separators, are left as they are.
-/
import Colloquy.Proofs.Json.Values

namespace Colloquy.Json

/-- Whether a character is U+0020 or beyond. -/
def isVisible (c : Char) : Bool := 0x20 ≤ c.toNat

theorem isVisible_of_isDigit {c : Char} (h : c.isDigit = true) :
    isVisible c = true := by
  simp only [Char.isDigit, ge_iff_le, Bool.and_eq_true, decide_eq_true_eq,
    UInt32.le_iff_toNat_le] at h
  exact decide_eq_true (Nat.le_trans (by decide) h.1)

theorem all_isVisible_hexDigits :
    ∀ n < 0x20, (Text.hexDigits 4 n).all isVisible = true := by
  decide

/-- Every character of `escapeChar` is visible. -/
theorem all_isVisible_escapeChar (c : Char) :
    (escapeChar c).all isVisible = true := by
  unfold escapeChar
  split_ifs with hself hn hr ht hb hf hcontrol
  · rcases hself with rfl | rfl <;> rfl
  · rfl
  · rfl
  · rfl
  · rfl
  · rfl
  · rw [List.all_cons, List.all_cons, all_isVisible_hexDigits _ hcontrol]
    rfl
  · have hvisible : isVisible c = true :=
      decide_eq_true (Nat.le_of_not_lt hcontrol)
    rw [List.all_cons, hvisible]
    rfl

theorem all_isVisible_quotedChars (s : String) :
    (quotedChars s).all isVisible = true := by
  have hinside : (s.toList.flatMap escapeChar).all isVisible = true := by
    rw [List.all_flatMap, List.all_eq_true]
    exact fun c _ => all_isVisible_escapeChar c
  unfold quotedChars
  rw [List.all_append, List.all_cons, hinside]
  rfl

theorem all_isVisible_joined {parts : List (List Char)}
    (h : ∀ part ∈ parts, part.all isVisible = true) :
    (joined parts).all isVisible = true := by
  induction parts with
  | nil => rfl
  | cons part parts ih =>
      obtain ⟨hfirst, hmore⟩ := List.forall_mem_cons.1 h
      have hrest := ih hmore
      cases parts with
      | nil =>
          rw [joined_singleton]
          exact hfirst
      | cons next parts =>
          rw [joined_cons_cons, List.all_append, List.all_cons, List.all_cons,
            hfirst, hrest]
          rfl

/-- The JSON text of a `Plain` value holds no control character below U+0020.
-/
theorem all_isVisible_chars {v : Value} (h : v.Plain) :
    (chars v).all isVisible = true := by
  induction h with
  | null => rfl
  | bool b => cases b <;> rfl
  | @int n _ =>
      have hdigits : (Nat.toDigits 10 n.natAbs).all isVisible = true := by
        rw [List.all_eq_true]
        exact fun c hc => isVisible_of_isDigit (isDigit_of_mem hc)
      show (toString n).toList.all isVisible = true
      rw [toList_toString, List.all_append, hdigits]
      by_cases hneg : n < 0
      · rw [if_pos hneg]
        rfl
      · rw [if_neg hneg]
        rfl
  | string s =>
      show (string s).toList.all isVisible = true
      rw [toList_string]
      exact all_isVisible_quotedChars s
  | list _ ih =>
      have hitems := all_isVisible_joined (List.forall_mem_map.2 ih)
      rw [chars_list, List.all_append, List.all_cons, hitems]
      rfl
  | @map members _ _ ih =>
      have hmembers : (joined (members.map memberChars)).all isVisible
        = true := by
        refine all_isVisible_joined (List.forall_mem_map.2 ?_)
        intro member hmember
        unfold memberChars
        rw [List.all_append, List.all_cons, List.all_cons,
          all_isVisible_quotedChars, ih member hmember]
        rfl
      rw [chars_map, List.all_append, List.all_cons, hmembers]
      rfl

end Colloquy.Json
