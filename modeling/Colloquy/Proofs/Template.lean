/-
Rendering piece by piece. A text without an opening brace stands for itself
in front of whatever follows it (`render_plain_append`), and a placeholder
stands for the text of its path (`render_placeholder`). What it stands for
is put in as it is: it is not looked through for placeholders, so a template
that starts with either can be rendered from its front to its end.
-/
import Colloquy.Template
import Mathlib.Data.List.Basic

namespace Colloquy

namespace Text

/-- Every character of a text is the separator, or is in one of the parts of
`splitAt`. -/
theorem mem_splitAt (separator : Char) {c : Char} {text : List Char}
    (h : c ∈ text) :
    c = separator ∨ ∃ part ∈ splitAt separator text, c ∈ part := by
  induction text with
  | nil => cases h
  | cons d rest ih =>
      unfold splitAt
      by_cases hd : d = separator
      · rw [if_pos hd]
        rcases List.mem_cons.1 h with rfl | h
        · exact .inl hd
        · rcases ih h with hc | ⟨part, hpart, hc⟩
          · exact .inl hc
          · exact .inr ⟨part, List.mem_cons_of_mem _ hpart, hc⟩
      · rw [if_neg hd]
        cases hparts : splitAt separator rest with
        | nil =>
            rw [hparts] at ih
            rcases List.mem_cons.1 h with rfl | h
            · exact .inr ⟨[c], by simp, by simp⟩
            · exact .inl (by simpa using ih h)
        | cons part more =>
            rw [hparts] at ih
            rcases List.mem_cons.1 h with rfl | h
            · exact .inr ⟨c :: part, by simp, by simp⟩
            · rcases ih h with hc | ⟨other, hother, hc⟩
              · exact .inl hc
              · rcases List.mem_cons.1 hother with rfl | hother
                · exact .inr ⟨d :: other, by simp, by simp [hc]⟩
                · exact .inr ⟨other, by simp [hother], hc⟩

end Text

namespace Template

-- ============================================================== pieces

/-- No `placeholder?` starts with anything but a brace. -/
theorem placeholder?_of_ne {c : Char} (hc : c ≠ '\x7b') (rest : List Char) :
    placeholder? (c :: rest) = none := by
  unfold placeholder?
  split
  · next heq =>
      cases heq
      exact absurd rfl hc
  · rfl

/-- Characters other than an opening brace are `plain` pieces. -/
theorem piecesAfter_plain {front : List Char} (h : '\x7b' ∉ front)
    (rest : List Char) :
    piecesAfter 0 (front ++ rest)
      = front.map .plain ++ piecesAfter 0 rest := by
  induction front with
  | nil => rfl
  | cons c front ih =>
      have hc : c ≠ '\x7b' := by
        rintro rfl
        exact h (List.mem_cons_self ..)
      have hfront : '\x7b' ∉ front :=
        fun hmem => h (List.mem_cons_of_mem _ hmem)
      rw [List.cons_append, piecesAfter, placeholder?_of_ne hc, ih hfront]
      rfl

/-- What `piecesAfter` is to skip is skipped. -/
theorem piecesAfter_skip (front rest : List Char) :
    piecesAfter front.length (front ++ rest) = piecesAfter 0 rest := by
  induction front with
  | nil => rfl
  | cons c front ih => exact ih

/-- A path (`isPath`) is made of word characters and dots. -/
theorem isPath_chars {path : List Char} (h : isPath path = true) :
    ∀ c ∈ path, (Text.isWord c || c == '.') = true := by
  intro c hc
  rcases Text.mem_splitAt '.' hc with rfl | ⟨name, hname, hc⟩
  · simp
  · have hall := List.all_eq_true.1 h name hname
    rw [Bool.and_eq_true] at hall
    rw [List.all_eq_true.1 hall.2 c hc]
    rfl

/-- A path between double braces is found by `placeholder?`, whatever follows
it. -/
theorem placeholder?_of_isPath {path : List Char} (h : isPath path = true)
    (rest : List Char) :
    placeholder? ('\x7b' :: '\x7b' :: (path ++ '\x7d' :: '\x7d' :: rest))
      = some path := by
  have htake : (path ++ '\x7d' :: '\x7d' :: rest).takeWhile
      (fun c => Text.isWord c || c == '.') = path := by
    rw [List.takeWhile_append_of_pos (isPath_chars h),
      List.takeWhile_cons_of_neg (by decide +kernel), List.append_nil]
  unfold placeholder?
  simp only [htake, List.drop_left]
  exact if_pos h

theorem piecesAfter_placeholder {path : List Char} (h : isPath path = true)
    (rest : List Char) :
    piecesAfter 0 ('\x7b' :: '\x7b' :: (path ++ '\x7d' :: '\x7d' :: rest))
      = .variable path :: piecesAfter 0 rest := by
  have hskip := piecesAfter_skip
    ('\x7b' :: (path ++ ['\x7d', '\x7d'])) rest
  rw [List.length_cons, List.length_append, List.cons_append,
    List.append_assoc] at hskip
  rw [piecesAfter, placeholder?_of_isPath h]
  exact congrArg _ hskip

-- ============================================================ rendering

/-- The texts of `plain` pieces are their characters. -/
theorem flatMap_plain (text : List Char) (ctx : Context) :
    (text.map Piece.plain).flatMap (Piece.text ctx) = text := by
  rw [List.flatMap_map]
  exact List.flatMap_singleton' text

/-- Text without an opening brace in front of a template is rendered as it is.
-/
theorem render_plain_append {text : String} (h : '\x7b' ∉ text.toList)
    (template : String) (ctx : Context) :
    render (text ++ template) ctx = text ++ render template ctx := by
  unfold render pieces
  rw [String.toList_append, piecesAfter_plain h, List.flatMap_append,
    flatMap_plain, String.ofList_append, String.ofList_toList]

/-- A text without an opening brace is rendered as it is. -/
theorem render_plain {text : String} (h : '\x7b' ∉ text.toList)
    (ctx : Context) : render text ctx = text := by
  have happend := render_plain_append h "" ctx
  rw [String.append_empty] at happend
  rw [happend]
  exact String.append_empty

/-- A placeholder in front of a template is rendered as the `textOf` its path.
-/
theorem render_placeholder {path : String} (h : isPath path.toList = true)
    (template : String) (ctx : Context) :
    render ("\x7b\x7b" ++ path ++ "\x7d\x7d" ++ template) ctx
      = textOf ctx path ++ render template ctx := by
  have hlist : ("\x7b\x7b" ++ path ++ "\x7d\x7d" ++ template).toList
      = '\x7b' :: '\x7b'
        :: (path.toList ++ '\x7d' :: '\x7d' :: template.toList) := by
    simp [String.toList_append]
  unfold render pieces
  rw [hlist, piecesAfter_placeholder h, List.flatMap_cons,
    String.ofList_append]
  show String.ofList (textOf ctx (.ofList path.toList)).toList ++ _ = _
  rw [String.ofList_toList, String.ofList_toList]

end Template
end Colloquy
