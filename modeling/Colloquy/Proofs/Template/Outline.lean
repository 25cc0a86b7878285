/-
Templates laid out. A template is plain text and placeholders in turn: text,
a placeholder, text, a placeholder, and text at the end, where no text holds
a placeholder of its own. There is exactly one way to lay a template out so,
and it is the one that the scan from the front finds (`laysOut_iff`). To
render a template is to fill its outline in: each placeholder gives way to
what its path says, and every text stays as it is. What is filled in is part
of the result and of no outline, so it is never looked through.

# Why there is one outline only

Placeholders do not overlap. A path has no brace in it, so a second
placeholder could only start at the second brace of a first one, and there
its own second brace would have to stand in the path of the first one
(`placeholder?_append`). A text without a placeholder is therefore read as
plain text up to the placeholder that follows it, and the outline can be
read back from the pieces of the scan (`ofPieces_pieces`).
-/
import Colloquy.Proofs.Catalog
import Colloquy.Proofs.Template

namespace Colloquy

namespace Text

theorem splitAt_ne_nil (c : Char) (text : List Char) :
    splitAt c text ≠ [] := by
  cases text with
  | nil => exact List.cons_ne_nil _ _
  | cons d rest =>
      unfold splitAt
      by_cases hd : d = c
      · rw [if_pos hd]
        exact List.cons_ne_nil _ _
      · rw [if_neg hd]
        cases splitAt c rest with
        | nil => exact List.cons_ne_nil _ _
        | cons part more => exact List.cons_ne_nil _ _

/-- The parts of `splitAt` are those of `List.splitOn`. -/
theorem splitAt_eq_splitOn (c : Char) (text : List Char) :
    splitAt c text = text.splitOn c := by
  induction text with
  | nil => rfl
  | cons d rest ih =>
      rw [List.splitOn, List.splitOnP_cons_eq_if_modifyHead, ← List.splitOn,
        ← ih, splitAt]
      by_cases hd : d = c
      · rw [if_pos hd, if_pos (beq_iff_eq.2 hd)]
      · rw [if_neg hd, if_neg fun h => hd (beq_iff_eq.1 h)]
        cases hparts : splitAt c rest with
        | nil => exact absurd hparts (splitAt_ne_nil c rest)
        | cons part more => rfl

end Text

namespace Template

-- =============================================================== paths

/-- A name: a run of word characters that is not empty. -/
def IsName (name : String) : Prop :=
  name ≠ "" ∧ ∀ c ∈ name.toList, Text.isWord c = true

/-- A path spelt out: names, at least one, joined by single dots. -/
def IsPath (path : String) : Prop :=
  ∃ names : List String, names ≠ [] ∧ (∀ name ∈ names, IsName name)
    ∧ path = String.intercalate "." names

theorem isName_iff {name : List Char} :
    (!name.isEmpty && name.all Text.isWord) = true
      ↔ IsName (.ofList name) := by
  have hempty : String.ofList name = "" ↔ name = [] := by
    rw [← String.toList_inj, String.toList_ofList, String.toList_empty]
  rw [IsName, ne_eq, hempty, String.toList_ofList, Bool.and_eq_true,
    Bool.not_eq_true', List.isEmpty_eq_false_iff, List.all_eq_true]

/-- The dot joins names and is in none of them. -/
theorem IsName.not_dot {name : String} (h : IsName name) :
    '.' ∉ name.toList := by
  intro hdot
  exact absurd (h.2 '.' hdot) (by decide +kernel)

/-- What `isPath` accepts are the paths of `IsPath`. -/
theorem isPath_iff {path : String} :
    isPath path.toList = true ↔ IsPath path := by
  unfold isPath
  rw [List.all_eq_true, Text.splitAt_eq_splitOn]
  constructor
  · intro h
    refine ⟨(path.toList.splitOn '.').map String.ofList, ?_, ?_, ?_⟩
    · rw [ne_eq, List.map_eq_nil_iff, ← Text.splitAt_eq_splitOn]
      exact Text.splitAt_ne_nil _ _
    · intro name hname
      obtain ⟨part, hpart, rfl⟩ := List.mem_map.1 hname
      exact isName_iff.1 (h part hpart)
    · have hmap : ((path.toList.splitOn '.').map String.ofList).map
          String.toList = path.toList.splitOn '.' := by
        simp [Function.comp_def]
      rw [← String.toList_inj, String.toList_intercalate, hmap]
      exact (List.intercalate_splitOn '.').symm
  · rintro ⟨names, hne, hnames, rfl⟩ part hpart
    rw [String.toList_intercalate, show ".".toList = ['.'] from rfl,
      List.splitOn_intercalate '.' _ (by simpa using hne)] at hpart
    · obtain ⟨name, hname, rfl⟩ := List.mem_map.1 hpart
      rw [isName_iff, String.ofList_toList]
      exact hnames name hname
    · intro part hpart
      obtain ⟨name, hname, rfl⟩ := List.mem_map.1 hpart
      exact (hnames name hname).not_dot

-- ======================================================== placeholders

/-- A placeholder: a path between double braces. -/
def placeholder (path : String) : String :=
  "\x7b\x7b" ++ path ++ "\x7d\x7d"

/-- Somewhere in the text stands a `placeholder` of a path. -/
def HoldsPlaceholder (text : String) : Prop :=
  ∃ before path after, IsPath path
    ∧ text = before ++ placeholder path ++ after

/-- The characters of a `placeholder`. -/
def placeholderChars (path : List Char) : List Char :=
  '\x7b' :: '\x7b' :: (path ++ ['\x7d', '\x7d'])

theorem toList_placeholder (path : String) :
    (placeholder path).toList = placeholderChars path.toList := by
  simp [placeholder, placeholderChars]

/-- What `placeholder?` finds at the front is a path, and the text starts with
its placeholder. -/
theorem placeholder?_eq_some_iff {text path : List Char} :
    placeholder? text = some path
      ↔ isPath path = true ∧ placeholderChars path <+: text := by
  constructor
  · intro h
    unfold placeholder? at h
    split at h
    · next rest =>
        dsimp only at h
        split at h
        · next after hafter =>
            split at h
            · next hpath =>
                obtain rfl := Option.some.inj h
                have hrest := List.prefix_iff_eq_append.1
                  (List.takeWhile_prefix (l := rest)
                    fun c => Text.isWord c || c == '.')
                rw [hafter] at hrest
                refine ⟨hpath, after, ?_⟩
                simp only [placeholderChars, List.cons_append,
                  List.append_assoc, List.nil_append]
                rw [hrest]
            · cases h
        · cases h
    · cases h
  · rintro ⟨hpath, rest, rfl⟩
    simp only [placeholderChars, List.cons_append, List.append_assoc,
      List.nil_append]
    exact placeholder?_of_isPath hpath rest

/-- No opening brace is in a path, or closes a placeholder. -/
theorem not_mem_closing {path : List Char} (h : isPath path = true) :
    '\x7b' ∉ path ++ ['\x7d', '\x7d'] := by
  intro hmem
  rcases List.mem_append.1 hmem with hmem | hmem
  · exact absurd (isPath_chars h _ hmem) (by decide +kernel)
  · exact absurd hmem (by decide)

/-- If `placeholder?` finds nothing at the front of a text, it finds nothing
there when a placeholder follows. -/
theorem placeholder?_append {front rest : List Char} (hfront : front ≠ [])
    (hplain : placeholder? front = none)
    (hrest : rest = [] ∨ ∃ path, placeholder? rest = some path) :
    placeholder? (front ++ rest) = none := by
  rcases hrest with rfl | ⟨path, hpath⟩
  · rw [List.append_nil]
    exact hplain
  obtain ⟨-, more, rfl⟩ := placeholder?_eq_some_iff.1 hpath
  rw [Option.eq_none_iff_forall_ne_some]
  intro other hfound
  obtain ⟨hother, after, heq⟩ := placeholder?_eq_some_iff.1 hfound
  have houtside : ∀ tail, front ≠ placeholderChars other ++ tail := by
    rintro tail rfl
    rw [placeholder?_eq_some_iff.2 ⟨hother, List.prefix_append _ tail⟩]
      at hplain
    cases hplain
  refine not_mem_closing hother ?_
  rcases List.append_eq_append_iff.1 heq
    with ⟨tail, hfront, -⟩ | ⟨tail, hchars, htail⟩
  · exact absurd hfront (houtside tail)
  -- the rest opens with two braces, and the first of them is in the tail
  cases tail with
  | nil =>
      rw [List.append_nil] at hchars
      exact absurd (by rw [hchars, List.append_nil]) (houtside [])
  | cons brace tail =>
      obtain ⟨rfl, hsecond⟩ := List.cons.inj htail
      obtain ⟨c, front, rfl⟩ := List.exists_cons_of_ne_nil hfront
      obtain ⟨-, hclosing⟩ := List.cons.inj hchars
      cases front with
      | cons d front =>
          -- it stands in the other path or behind it
          rw [(List.cons.inj hclosing).2]
          exact List.mem_append_right _ (List.mem_cons_self ..)
      | nil =>
          -- it stands right before the other path, and the second one in it
          have htail := (List.cons.inj hclosing).2
          cases tail with
          | nil => exact absurd htail (by simp)
          | cons d tail =>
              rw [htail, ← (List.cons.inj hsecond).1]
              exact List.mem_cons_self ..

theorem not_holdsPlaceholder_empty : ¬ HoldsPlaceholder "" := by
  rintro ⟨before, path, after, -, heq⟩
  have hchars := congrArg String.toList heq
  simp [toList_placeholder, placeholderChars] at hchars

/-- A text `HoldsPlaceholder` just if one is at its front or behind its first
character. -/
theorem holdsPlaceholder_cons {c : Char} {front : List Char} :
    HoldsPlaceholder (.ofList (c :: front))
      ↔ (∃ path, placeholder? (c :: front) = some path)
        ∨ HoldsPlaceholder (.ofList front) := by
  have hcons : String.ofList (c :: front)
      = String.singleton c ++ String.ofList front := by
    rw [← String.toList_inj]
    simp
  constructor
  · rintro ⟨before, path, after, hpath, heq⟩
    have hchars := congrArg String.toList heq
    rw [String.toList_ofList, String.toList_append, String.toList_append,
      toList_placeholder] at hchars
    cases hbefore : before.toList with
    | nil =>
        rw [hbefore, List.nil_append] at hchars
        exact .inl ⟨path.toList, placeholder?_eq_some_iff.2
          ⟨isPath_iff.2 hpath, after.toList, hchars.symm⟩⟩
    | cons d more =>
        rw [hbefore] at hchars
        have hfront := (List.cons.inj hchars).2
        refine .inr ⟨.ofList more, path, after, hpath, ?_⟩
        rw [hfront, ← String.toList_inj]
        simp [toList_placeholder]
  · rintro (⟨path, hfound⟩ | ⟨before, path, after, hpath, heq⟩)
    · obtain ⟨hpath, after, heq⟩ := placeholder?_eq_some_iff.1 hfound
      refine ⟨"", .ofList path, .ofList after, ?_, ?_⟩
      · rw [← isPath_iff, String.toList_ofList]
        exact hpath
      · rw [← String.toList_inj]
        simp [toList_placeholder, heq]
    · refine ⟨String.singleton c ++ before, path, after, hpath, ?_⟩
      rw [hcons, heq]
      simp only [String.append_assoc]

/-- Text without a placeholder is `plain` pieces up to its end, or up to the
placeholder that follows it. -/
theorem piecesAfter_text {front rest : List Char}
    (hfront : ¬ HoldsPlaceholder (.ofList front))
    (hrest : rest = [] ∨ ∃ path, placeholder? rest = some path) :
    piecesAfter 0 (front ++ rest)
      = front.map .plain ++ piecesAfter 0 rest := by
  induction front with
  | nil => rfl
  | cons c front ih =>
      rw [holdsPlaceholder_cons, not_or] at hfront
      obtain ⟨hplain, hfront⟩ := hfront
      have hplain : placeholder? (c :: front) = none :=
        Option.eq_none_iff_forall_ne_some.2 fun path h => hplain ⟨path, h⟩
      have hnone := placeholder?_append (List.cons_ne_nil c front) hplain hrest
      rw [List.cons_append] at hnone ⊢
      rw [piecesAfter, hnone, ih hfront]
      rfl

-- ======================================================== what paths say

/-- What a path says in a context. Each of the four names says what it names.
Behind `metadata.` all that is left of the path is one key, and a value that is
absent or null says nothing. Any other path says nothing either. -/
inductive Says (ctx : Context) : String → String → Prop
  | buffer : Says ctx "buffer" ctx.buffer
  | turnCount : Says ctx "turnCount" (toString ctx.turnCount)
  | stateTurnCount : Says ctx "stateTurnCount" (toString ctx.stateTurnCount)
  | wordCount : Says ctx "wordCount" (toString ctx.wordCount)
  | remembered {key : String} {value : Value}
      (h : ctx.metadata.get? key = some value) (hvalue : value ≠ .null) :
      Says ctx ("metadata." ++ key) value.text
  | forgotten {key : String}
      (h : ctx.metadata.get? key = none
        ∨ ctx.metadata.get? key = some .null) :
      Says ctx ("metadata." ++ key) ""
  | unknown {path : String} (hname : path ∉ knownNames)
      (hroot : ∀ key, path ≠ "metadata." ++ key) : Says ctx path ""

/-- A path starts with `metadataRoot` just if it is `metadata.` and a key. -/
theorem isPrefixOf_root_iff {path : String} :
    metadataRoot.isPrefixOf path.toList = true
      ↔ ∃ key, path = "metadata." ++ key := by
  rw [List.isPrefixOf_iff_prefix]
  constructor
  · rintro ⟨key, hkey⟩
    refine ⟨.ofList key, ?_⟩
    rw [← String.toList_inj, ← hkey, String.toList_append]
    exact congrArg _ (String.toList_ofList (l := key)).symm
  · rintro ⟨key, rfl⟩
    rw [String.toList_append]
    exact List.prefix_append _ _

/-- None of `knownNames` starts with `metadata.`. -/
theorem root_not_known (key : String) : "metadata." ++ key ∉ knownNames := by
  intro hmem
  have hnone : ∀ name ∈ knownNames,
      metadataRoot.isPrefixOf name.toList = false := by decide
  have hroot := isPrefixOf_root_iff.2 ⟨key, rfl⟩
  rw [hnone _ hmem] at hroot
  cases hroot

/-- A path that is none of `knownNames` is none of `namedVariables`. -/
theorem lookup_of_not_known {path : String} (h : path ∉ knownNames) :
    namedVariables.lookup path = none := by
  rw [List.lookup_eq_none_iff]
  intro entry hentry
  rw [bne_iff_ne]
  rintro rfl
  exact h (List.mem_map_of_mem hentry)

theorem ofPath?_root (key : String) :
    Variable.ofPath? ("metadata." ++ key) = some (.metadata key) := by
  have hkey : ("metadata." ++ key).toList.drop metadataRoot.length
      = key.toList := by
    rw [String.toList_append]
    exact List.drop_left
  rw [Variable.ofPath?, lookup_of_not_known (root_not_known key)]
  dsimp only
  rw [if_pos (isPrefixOf_root_iff.2 ⟨key, rfl⟩), hkey, String.ofList_toList]

theorem ofPath?_of_not_known {path : String} (hname : path ∉ knownNames)
    (hroot : ∀ key, path ≠ "metadata." ++ key) :
    Variable.ofPath? path = none := by
  rw [Variable.ofPath?, lookup_of_not_known hname]
  dsimp only
  rw [if_neg]
  rw [isPrefixOf_root_iff]
  rintro ⟨key, hkey⟩
  exact hroot key hkey

/-- The `textOf` a path behind `metadata.` is that of the remembered value. -/
theorem textOf_root (ctx : Context) (key : String) :
    textOf ctx ("metadata." ++ key) = (Variable.metadata key).text ctx := by
  rw [textOf, ofPath?_root]
  rfl

/-- What a path `Says` is its `textOf`. -/
theorem says_iff {ctx : Context} {path text : String} :
    Says ctx path text ↔ textOf ctx path = text := by
  constructor
  · intro h
    cases h with
    | buffer => rfl
    | turnCount => rfl
    | stateTurnCount => rfl
    | wordCount => rfl
    | @remembered key value h hvalue =>
        rw [textOf_root, Variable.text, h]
        cases value with
        | null => exact absurd rfl hvalue
        | _ => rfl
    | forgotten h =>
        rw [textOf_root, Variable.text]
        rcases h with h | h <;> rw [h]
    | unknown hname hroot =>
        rw [textOf, ofPath?_of_not_known hname hroot]
        rfl
  · rintro rfl
    by_cases hname : path ∈ knownNames
    · simp only [knownNames, List.mem_cons, List.not_mem_nil, or_false]
        at hname
      rcases hname with rfl | rfl | rfl | rfl
      · exact .buffer
      · exact .turnCount
      · exact .stateTurnCount
      · exact .wordCount
    · by_cases hroot : ∃ key, path = "metadata." ++ key
      · obtain ⟨key, rfl⟩ := hroot
        rw [textOf_root]
        cases hget : ctx.metadata.get? key with
        | none =>
            rw [Variable.text, hget]
            exact .forgotten (.inl hget)
        | some value =>
            rw [Variable.text, hget]
            cases value with
            | null => exact .forgotten (.inr hget)
            | _ => exact .remembered hget nofun
      · rw [not_exists] at hroot
        rw [textOf, ofPath?_of_not_known hname hroot]
        exact .unknown hname hroot

-- ============================================================ outlines

/-- A template laid out: text to the end, or text, the path of a placeholder,
and what follows the placeholder. -/
inductive Outline
  | plain (text : String)
  | placed (text path : String) (rest : Outline)

namespace Outline

/-- The texts of the outline, with what `say` gives for each path in between.
-/
def filled (say : String → String) : Outline → String
  | .plain text => text
  | .placed text path rest => text ++ say path ++ rest.filled say

/-- The paths of the placeholders, in order. -/
def paths : Outline → List String
  | .plain _ => []
  | .placed _ path rest => path :: rest.paths

/-- The texts around the placeholders, in order. -/
def texts : Outline → List String
  | .plain text => [text]
  | .placed text _ rest => text :: rest.texts

/-- The outline lays the template out: with its placeholders filled in it is
the template, its paths are paths, and no text `HoldsPlaceholder`. -/
structure LaysOut (o : Outline) (template : String) : Prop where
  whole : o.filled placeholder = template
  paths : ∀ path ∈ o.paths, IsPath path
  texts : ∀ text ∈ o.texts, ¬ HoldsPlaceholder text

/-- The pieces of the outline: `plain` ones for its texts, and a placeholder
for each path. -/
def pieces : Outline → List Piece
  | .plain text => text.toList.map .plain
  | .placed text path rest =>
    text.toList.map .plain ++ .variable path.toList :: rest.pieces

/-- The outline with `front` put before its first text. -/
def behind (front : String) : Outline → Outline
  | .plain text => .plain (front ++ text)
  | .placed text path rest => .placed (front ++ text) path rest

/-- The outline of pieces. -/
def ofPieces : List Piece → Outline
  | [] => .plain ""
  | .plain c :: rest => (ofPieces rest).behind (.singleton c)
  | .variable path :: rest => .placed "" (.ofList path) (ofPieces rest)

theorem behind_behind (before front : String) (o : Outline) :
    (o.behind front).behind before = o.behind (before ++ front) := by
  cases o <;> simp [behind, String.append_assoc]

theorem ofPieces_plain (text : List Char) (rest : List Piece) :
    ofPieces (text.map .plain ++ rest)
      = (ofPieces rest).behind (.ofList text) := by
  induction text with
  | nil => cases hrest : ofPieces rest <;> simp [hrest, behind]
  | cons c text ih =>
      show (ofPieces (text.map .plain ++ rest)).behind (.singleton c) = _
      rw [ih, behind_behind]
      congr 1
      rw [← String.toList_inj]
      simp

/-- An outline comes back from its `pieces`. -/
theorem ofPieces_pieces (o : Outline) : ofPieces o.pieces = o := by
  induction o with
  | plain text =>
      have h := ofPieces_plain text.toList []
      rw [List.append_nil, String.ofList_toList] at h
      rw [pieces, h]
      simp [ofPieces, behind]
  | placed text path rest ih =>
      rw [pieces, ofPieces_plain, ofPieces, ih]
      simp [behind]

/-- The pieces of a template are those of every outline that `LaysOut` it. -/
theorem LaysOut.pieces_eq {o : Outline} {template : String}
    (h : o.LaysOut template) : Template.pieces template = o.pieces := by
  unfold Template.pieces
  induction o generalizing template with
  | plain text =>
      obtain ⟨rfl, -, htexts⟩ := h
      have htext := htexts text (List.mem_singleton.2 rfl)
      rw [← String.ofList_toList (s := text)] at htext
      have hpieces := piecesAfter_text htext (.inl rfl)
      rw [List.append_nil] at hpieces
      rw [filled, hpieces]
      simp [piecesAfter, pieces]
  | placed text path rest ih =>
      obtain ⟨rfl, hpaths, htexts⟩ := h
      have hpath := isPath_iff.2 (hpaths path (List.mem_cons_self ..))
      have htext := htexts text (List.mem_cons_self ..)
      rw [← String.ofList_toList (s := text)] at htext
      have hrest := ih ⟨rfl, fun p hp => hpaths p (List.mem_cons_of_mem _ hp),
        fun t ht => htexts t (List.mem_cons_of_mem _ ht)⟩
      have hchars : (placeholder path).toList
          ++ (rest.filled placeholder).toList
        = '\x7b' :: '\x7b' :: (path.toList ++ '\x7d' :: '\x7d'
          :: (rest.filled placeholder).toList) := by
        simp [toList_placeholder, placeholderChars]
      rw [filled, String.toList_append, String.toList_append,
        List.append_assoc, piecesAfter_text htext (.inr ⟨path.toList, ?_⟩),
        hchars, piecesAfter_placeholder hpath, hrest]
      · rfl
      · rw [hchars]
        exact placeholder?_of_isPath hpath _

/-- Every outline has a text in front. -/
theorem exists_texts (o : Outline) (say : String → String) :
    ∃ text more rest, o.texts = text :: more
      ∧ o.filled say = text ++ rest
      ∧ ∀ front, (o.behind front).texts = (front ++ text) :: more := by
  cases o with
  | plain text =>
      exact ⟨text, [], "", rfl, String.append_empty.symm, fun _ => rfl⟩
  | placed text path rest =>
      exact ⟨text, rest.texts, say path ++ rest.filled say, rfl,
        String.append_assoc, fun _ => rfl⟩

theorem filled_behind (say : String → String) (front : String)
    (o : Outline) : (o.behind front).filled say = front ++ o.filled say := by
  cases o <;> simp [behind, filled, String.append_assoc]

theorem paths_behind (front : String) (o : Outline) :
    (o.behind front).paths = o.paths := by
  cases o <;> rfl

/-- If no `placeholder?` is at the front, the first character goes `behind` the
outline's first text. -/
theorem LaysOut.behind {o : Outline} {c : Char} {rest : List Char}
    (h : o.LaysOut (.ofList rest)) (hnone : placeholder? (c :: rest) = none) :
    (o.behind (.singleton c)).LaysOut (.ofList (c :: rest)) := by
  obtain ⟨text, more, tail, htexts, hwhole, hbehind⟩ :=
    o.exists_texts placeholder
  rw [h.whole] at hwhole
  have hrest : rest = text.toList ++ tail.toList := by
    rw [← String.toList_append, ← hwhole, String.toList_ofList]
  have hpieces := h.texts
  rw [htexts] at hpieces
  refine ⟨?_, ?_, ?_⟩
  · rw [filled_behind, h.whole, ← String.toList_inj]
    simp
  · rw [paths_behind]
    exact h.paths
  · rw [hbehind]
    intro t ht
    rcases List.mem_cons.1 ht with rfl | ht
    · rw [show String.singleton c ++ text = .ofList (c :: text.toList) by
        rw [← String.toList_inj]; simp, holdsPlaceholder_cons, not_or,
        String.ofList_toList]
      refine ⟨?_, hpieces text (List.mem_cons_self ..)⟩
      rintro ⟨path, hfound⟩
      obtain ⟨hpath, hfront⟩ := placeholder?_eq_some_iff.1 hfound
      have hlonger : c :: text.toList <+: c :: rest :=
        ⟨tail.toList, by rw [hrest]; rfl⟩
      rw [placeholder?_eq_some_iff.2 ⟨hpath, hfront.trans hlonger⟩] at hnone
      cases hnone
    · exact hpieces t (List.mem_cons_of_mem _ ht)

/-- The outline of `piecesAfter` lays the text out. The induction is on how
much is left to scan. -/
theorem laysOut_ofPieces (text : List Char) :
    (ofPieces (piecesAfter 0 text)).LaysOut (.ofList text) := by
  induction hlength : text.length using Nat.strongRecOn
    generalizing text with
  | ind n ih =>
      subst hlength
      cases text with
      | nil =>
          refine ⟨rfl, nofun, fun text htext => ?_⟩
          rw [List.mem_singleton.1 htext]
          exact not_holdsPlaceholder_empty
      | cons c rest =>
          cases hfound : placeholder? (c :: rest) with
          | none =>
              have hrest := ih rest.length (Nat.lt_succ_self _) rest rfl
              rw [piecesAfter, hfound]
              exact hrest.behind hfound
          | some path =>
              obtain ⟨hpath, after, heq⟩ := placeholder?_eq_some_iff.1 hfound
              have hshorter : after.length < (c :: rest).length := by
                rw [← heq, List.length_append]
                exact Nat.lt_add_of_pos_left (Nat.zero_lt_succ _)
              have hafter := ih after.length hshorter after rfl
              rw [← heq]
              simp only [placeholderChars, List.cons_append,
                List.append_assoc, List.nil_append]
              rw [piecesAfter_placeholder hpath]
              refine ⟨?_, ?_, ?_⟩
              · rw [ofPieces, filled, hafter.whole, ← String.toList_inj]
                simp [toList_placeholder, placeholderChars]
              · refine List.forall_mem_cons.2 ⟨?_, hafter.paths⟩
                rw [← isPath_iff, String.toList_ofList]
                exact hpath
              · exact List.forall_mem_cons.2
                  ⟨not_holdsPlaceholder_empty, hafter.texts⟩

/-- The only outline that `LaysOut` a template is the one of its pieces. -/
theorem laysOut_iff {o : Outline} {template : String} :
    o.LaysOut template ↔ o = ofPieces (Template.pieces template) := by
  constructor
  · intro h
    rw [h.pieces_eq, ofPieces_pieces]
  · rintro rfl
    have h := laysOut_ofPieces template.toList
    rw [String.ofList_toList] at h
    exact h

-- ============================================================ filling in

variable {o : Outline} {template : String}

/-- The `variablePaths` of a template are the paths of its outline. -/
theorem LaysOut.variablePaths_eq (h : o.LaysOut template) :
    variablePaths template = o.paths := by
  have hplain : ∀ text : String,
      (text.toList.map Piece.plain).filterMap Piece.path? = [] := by
    intro text
    rw [List.filterMap_map]
    exact List.filterMap_eq_nil_iff.2 fun c _ => rfl
  rw [variablePaths, h.pieces_eq]
  clear h
  induction o with
  | plain text => exact hplain text
  | placed text path rest ih =>
      rw [pieces, List.filterMap_append, hplain, List.nil_append,
        List.filterMap_cons_some (b := path) (by simp [Piece.path?]), ih]
      rfl

/-- To `render` a template is to fill its outline in with `textOf`. -/
theorem LaysOut.render_eq (h : o.LaysOut template) (ctx : Context) :
    render template ctx = o.filled (textOf ctx) := by
  rw [render, h.pieces_eq, ← String.toList_inj, String.toList_ofList]
  clear h
  induction o with
  | plain text => exact flatMap_plain text.toList ctx
  | placed text path rest ih =>
      rw [pieces, List.flatMap_append, flatMap_plain, List.flatMap_cons, ih,
        filled, Piece.text, String.ofList_toList, String.toList_append,
        String.toList_append, List.append_assoc]

end Outline

/-- Templates are resolved in one pass, and no more than their placeholders
are. There is one way to lay a template out as texts without placeholders
around paths. Its variables are those paths, and it is rendered as those
texts with what each path says in between. -/
theorem render_eq_filled (template : String) :
    ∃ o : Outline, (∀ o' : Outline, o'.LaysOut template ↔ o' = o)
      ∧ variablePaths template = o.paths
      ∧ ∀ ctx, render template ctx = o.filled (textOf ctx)
        ∧ ∀ path text, Says ctx path text ↔ textOf ctx path = text := by
  have hfound : (Outline.ofPieces (pieces template)).LaysOut template :=
    Outline.laysOut_iff.2 rfl
  refine ⟨_, fun o' => Outline.laysOut_iff, hfound.variablePaths_eq, ?_⟩
  exact fun ctx => ⟨hfound.render_eq ctx, fun path text => says_iff⟩

/-- What was gathered is put in as it is, and a key may hold dots. -/
example :
    render "\x7b\x7bbuffer\x7d\x7d \x7b\x7b\x7bmetadata.a.b\x7d\x7d\x7d"
      { buffer := "\x7b\x7bturnCount\x7d\x7d"
        metadata := .ofList [("a.b", .string "here")] }
      = "\x7b\x7bturnCount\x7d\x7d \x7bhere\x7d" := by
  decide +kernel

end Template
end Colloquy
