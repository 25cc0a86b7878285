/-
Values read back from their JSON text. A value is plain if JSON can say it:
it holds no path and no floating-point number, its whole numbers are not
too long, and the names of a map are distinct. The text of a plain value
reads as that value and nothing more, wherever it stands (`readValue_write`),
and so does a whole text (`read_write`).

The induction is on the value. The reader is given fuel, and twice the
length of the text is enough for a value, since every bracket and every
separator pays for the call that it causes.
-/
import Colloquy.Proofs.Catalog
import Colloquy.Proofs.Json.Scalars

namespace Colloquy

/-- A value that JSON text can say: no path and no floating-point number in it,
its whole numbers of at most `Json.maxDigits` digits, the names of a map
distinct. -/
inductive Value.Plain : Value → Prop
  | null : Plain .null
  | bool (b : Bool) : Plain (.bool b)
  | int {n : Int} (h : n.natAbs < 10 ^ Json.maxDigits) : Plain (.int n)
  | string (s : String) : Plain (.string s)
  | list {items : List Value} (h : ∀ item ∈ items, Plain item) :
      Plain (.list items)
  | map {members : List (String × Value)}
      (hnodup : (members.map Prod.fst).Nodup)
      (h : ∀ member ∈ members, Plain member.2) : Plain (.map members)

namespace Json

-- =============================================================== writing

/-- The characters of `write v`. -/
def chars (v : Value) : List Char := (write v).toList

/-- The characters of a string between its quotes, escaped. -/
def quotedChars (s : String) : List Char :=
  '\x22' :: s.toList.flatMap escapeChar ++ ['\x22']

/-- The characters of a member: the quoted name, a colon and a space, and the
value. -/
def memberChars (member : String × Value) : List Char :=
  quotedChars member.1 ++ ':' :: ' ' :: chars member.2

theorem toList_string (s : String) : (string s).toList = quotedChars s :=
  String.toList_ofList

theorem writeItems_eq (items : List Value) :
    writeItems items = items.map write := by
  induction items with
  | nil => rfl
  | cons item rest ih => rw [writeItems, ih, List.map_cons]

theorem writeMembers_eq (members : List (String × Value)) :
    writeMembers members
      = members.map fun member =>
        string member.1 ++ ": " ++ write member.2 := by
  induction members with
  | nil => rfl
  | cons member rest ih => rw [writeMembers, ih, List.map_cons]

/-- The parts with a comma and a space between them. -/
def joined (parts : List (List Char)) : List Char :=
  [',', ' '].intercalate parts

theorem joined_cons_cons (part next : List Char)
    (rest : List (List Char)) :
    joined (part :: next :: rest)
      = part ++ ',' :: ' ' :: joined (next :: rest) := by
  unfold joined
  rw [List.intercalate_cons_cons]
  simp

theorem joined_singleton (part : List Char) : joined [part] = part := by
  simp [joined]

theorem chars_list (items : List Value) :
    chars (.list items) = '[' :: joined (items.map chars) ++ [']'] := by
  unfold chars joined
  simp only [write, writeItems_eq, String.toList_append,
    String.toList_intercalate, List.map_map]
  rfl

theorem chars_map (members : List (String × Value)) :
    chars (.map members)
      = '\x7b' :: joined (members.map memberChars) ++ ['\x7d'] := by
  have hmember : String.toList ∘ (fun member : String × Value =>
      string member.1 ++ ": " ++ write member.2) = memberChars := by
    funext member
    simp only [Function.comp_apply, String.toList_append, toList_string]
    unfold memberChars chars
    simp
  unfold chars joined
  simp only [write, writeMembers_eq, String.toList_append,
    String.toList_intercalate, List.map_map, hmember]
  rfl

/-- What a text starts with where a value is expected: no space, no closing
bracket, and no byte order mark. -/
structure Opens (text : List Char) : Prop where
  space : skipSpace text = text
  bracket : ∀ rest, text ≠ ']' :: rest
  order : ∀ rest, text ≠ '\ufeff' :: rest

theorem opens_cons {c : Char} (hc : c ∉ [' ', '\t', '\n', '\r', ']', '\ufeff'])
    (rest : List Char) : Opens (c :: rest) := by
  simp only [List.mem_cons, List.not_mem_nil, or_false, not_or] at hc
  refine ⟨?_, ?_, ?_⟩
  · simp [skipSpace, hc]
  · rintro rest' ⟨⟩
    simp at hc
  · rintro rest' ⟨⟩
    simp at hc

/-- The text of a `Plain` value `Opens`, whatever stands behind it. -/
theorem opens_chars {v : Value} (h : v.Plain) (rest : List Char) :
    Opens (chars v ++ rest) := by
  cases h with
  | null => exact opens_cons (by decide) _
  | bool b =>
      cases b with
      | true => exact opens_cons (by decide) _
      | false => exact opens_cons (by decide) _
  | string s =>
      show Opens ((string s).toList ++ rest)
      rw [toList_string]
      exact opens_cons (by decide) _
  | list _ =>
      rw [chars_list]
      exact opens_cons (by decide) _
  | map _ _ =>
      rw [chars_map]
      exact opens_cons (by decide) _
  | @int n hn =>
      obtain ⟨d, ds, heq, hdigit, -⟩ := toDigits_cons n.natAbs
      show Opens ((toString n).toList ++ rest)
      rw [toList_toString]
      by_cases hneg : n < 0
      · rw [if_pos hneg]
        exact opens_cons (by decide) _
      · rw [if_neg hneg, heq]
        exact opens_cons (not_mem_of_isDigit hdigit (by decide)) _

/-- The `joined` texts of items open if the first item is `Plain`. -/
theorem opens_joined {v : Value} (h : v.Plain) (items : List Value)
    (rest : List Char) : Opens (joined ((v :: items).map chars) ++ rest) := by
  cases items with
  | nil =>
      rw [List.map_cons, List.map_nil, joined_singleton]
      exact opens_chars h rest
  | cons next items =>
      rw [List.map_cons, List.map_cons, joined_cons_cons, List.append_assoc]
      exact opens_chars h _

-- =============================================================== reading

/-- Before every rest that `Ends` a value, the text of `v` is read as `v`, with
fuel enough. -/
def Reads (v : Value) : Prop :=
  ∀ fuel rest, 2 * (chars v).length ≤ fuel → Ends rest →
    readValue fuel (chars v ++ rest) = .ok (v, rest)

theorem ends_comma (rest : List Char) : Ends (',' :: rest) := by
  rintro c ⟨⟩
  exact .inl rfl

theorem ends_bracket (rest : List Char) : Ends (']' :: rest) := by
  rintro c ⟨⟩
  exact .inr (.inl rfl)

theorem ends_brace (rest : List Char) : Ends ('\x7d' :: rest) := by
  rintro c ⟨⟩
  exact .inr (.inr rfl)

/-- A value reads if its text is no string, array or object and is read by
`readScalar`. -/
theorem reads_of_scalar {v : Value} {c : Char} {cs : List Char}
    (hchars : chars v = c :: cs) (hc : c ∉ ['\x22', '\x7b', '['])
    (hscalar : ∀ rest, Ends rest →
      readScalar (chars v ++ rest) = .ok (v, rest)) : Reads v := by
  intro fuel rest hfuel hrest
  have hread := hscalar rest hrest
  rw [hchars] at hfuel hread ⊢
  obtain ⟨fuel, rfl⟩ : ∃ n, fuel = n + 1 := by
    rw [List.length_cons] at hfuel
    exact ⟨fuel - 1, by omega⟩
  simp only [List.mem_cons, List.not_mem_nil, or_false, not_or] at hc
  rw [List.cons_append] at hread ⊢
  unfold readValue
  split
  · next heq =>
      cases heq
      exact absurd rfl hc.1
  · next heq =>
      cases heq
      exact absurd rfl hc.2.1
  · next heq =>
      cases heq
      exact absurd rfl hc.2.2
  · exact hread

theorem reads_null : Reads .null :=
  reads_of_scalar rfl (by decide) fun _ _ => rfl

theorem reads_bool (b : Bool) : Reads (.bool b) := by
  cases b with
  | true => exact reads_of_scalar rfl (by decide) fun _ _ => rfl
  | false => exact reads_of_scalar rfl (by decide) fun _ _ => rfl

theorem reads_int {n : Int} (hn : n.natAbs < 10 ^ maxDigits) :
    Reads (.int n) := by
  have hscalar : ∀ rest, Ends rest →
      readScalar (chars (.int n) ++ rest) = .ok (.int n, rest) :=
    fun rest hrest => readScalar_int hn hrest
  obtain ⟨d, ds, heq, hdigit, -⟩ := toDigits_cons n.natAbs
  have hchars : chars (.int n) = (if n < 0 then ['-'] else []) ++ d :: ds := by
    rw [← heq]
    exact toList_toString n
  by_cases hneg : n < 0
  · rw [if_pos hneg] at hchars
    exact reads_of_scalar hchars (by decide) hscalar
  · rw [if_neg hneg] at hchars
    exact reads_of_scalar hchars (not_mem_of_isDigit hdigit (by decide))
      hscalar

/-- After its opening quote, the text of a string is read by `readString`. -/
theorem readString_quoted (s : String) (rest : List Char) :
    readString (s.toList.flatMap escapeChar ++ '\x22' :: rest)
      = .ok (s, rest) := by
  rw [readString_escaped, String.ofList_toList]

theorem quotedChars_append (s : String) (rest : List Char) :
    quotedChars s ++ rest
      = '\x22' :: (s.toList.flatMap escapeChar ++ '\x22' :: rest) := by
  simp [quotedChars]

theorem reads_string (s : String) : Reads (.string s) := by
  intro fuel rest hfuel _
  have hchars : chars (.string s) = quotedChars s := toList_string s
  obtain ⟨fuel, rfl⟩ : ∃ n, fuel = n + 1 := by
    rw [hchars] at hfuel
    have : 0 < (quotedChars s).length := by simp [quotedChars]
    exact ⟨fuel - 1, by omega⟩
  rw [hchars, quotedChars_append]
  simp only [readValue, readString_quoted]
  rfl

section Items

variable {fuel : Nat} {before : List Value} {item : Value}
  {text rest : List Char}

/-- If a closing bracket stands behind an item, `readItems` ends with it. -/
theorem readItems_last (h : readValue fuel text = .ok (item, ']' :: rest)) :
    readItems (fuel + 1) before text
      = .ok (.list (before.reverse ++ [item]), rest) := by
  have hskip : skipSpace (']' :: rest) = ']' :: rest := rfl
  simp only [readItems, h, bind, Except.bind, hskip, pure, Except.pure,
    List.reverse_cons]

/-- If a comma stands behind an item, `readItems` goes on. -/
theorem readItems_next
    (h : readValue fuel text = .ok (item, ',' :: ' ' :: rest))
    (hrest : Opens rest) :
    readItems (fuel + 1) before text
      = readItems fuel (item :: before) rest := by
  have hcomma : skipSpace (',' :: ' ' :: rest) = ',' :: ' ' :: rest := rfl
  have hskip : skipSpace (' ' :: rest) = rest := hrest.space
  simp only [readItems, h, bind, Except.bind, hcomma, hskip]

end Items

/-- The `joined` texts of items are read by `readItems` up to the closing
bracket. -/
theorem readItems_joined {items : List Value} (hne : items ≠ [])
    (hplain : ∀ item ∈ items, item.Plain) (hreads : ∀ item ∈ items, Reads item)
    (rest : List Char) :
    ∀ fuel before, 2 * (joined (items.map chars)).length + 1 ≤ fuel →
      readItems fuel before (joined (items.map chars) ++ ']' :: rest)
        = .ok (.list (before.reverse ++ items), rest) := by
  induction items with
  | nil => exact absurd rfl hne
  | cons item items ih =>
      -- the separator behind an item pays for the call that reads the next
      intro fuel before hfuel
      obtain ⟨fuel, rfl⟩ : ∃ n, fuel = n + 1 := ⟨fuel - 1, by omega⟩
      obtain ⟨hitem, hreads⟩ := List.forall_mem_cons.1 hreads
      obtain ⟨-, hplain⟩ := List.forall_mem_cons.1 hplain
      cases items with
      | nil =>
          rw [List.map_cons, List.map_nil, joined_singleton] at hfuel ⊢
          exact readItems_last (hitem fuel _ (by omega) (ends_bracket rest))
      | cons next items =>
          have hmore := ih (List.cons_ne_nil next items) hplain hreads
          have hopens : Opens (joined ((next :: items).map chars)
              ++ ']' :: rest) :=
            opens_joined (hplain next (List.mem_cons_self ..)) items _
          rw [List.map_cons, List.map_cons, joined_cons_cons,
            ← List.map_cons] at hfuel ⊢
          simp only [List.length_append, List.length_cons] at hfuel
          rw [List.append_assoc, List.cons_append, List.cons_append,
            readItems_next (hitem fuel _ (by omega) (ends_comma _)) hopens,
            hmore fuel (item :: before) (by omega)]
          simp

/-- After an opening bracket, a text that `Opens` is read by `readItems`. -/
theorem readValue_bracket {fuel : Nat} {text : List Char} (h : Opens text) :
    readValue (fuel + 1) ('[' :: text) = readItems fuel [] text := by
  simp only [readValue, h.space]
  split
  · exact (h.bracket _ rfl).elim
  · rfl

theorem reads_list {items : List Value} (hplain : ∀ item ∈ items, item.Plain)
    (hreads : ∀ item ∈ items, Reads item) : Reads (.list items) := by
  intro fuel rest hfuel _
  rw [chars_list] at hfuel ⊢
  simp only [List.length_append, List.length_cons, List.length_nil] at hfuel
  obtain ⟨fuel, rfl⟩ : ∃ n, fuel = n + 1 := ⟨fuel - 1, by omega⟩
  rw [List.cons_append, List.cons_append, List.append_assoc]
  cases items with
  | nil => rfl
  | cons item items =>
      have hread := readItems_joined (List.cons_ne_nil item items) hplain
        hreads rest fuel [] (by omega)
      have hopens : Opens (joined ((item :: items).map chars)
          ++ ']' :: rest) :=
        opens_joined (hplain item (by simp)) items _
      exact (readValue_bracket hopens).trans hread

theorem memberChars_append (name : String) (v : Value) (rest : List Char) :
    memberChars (name, v) ++ rest
      = '\x22' :: (name.toList.flatMap escapeChar
        ++ '\x22' :: ':' :: ' ' :: (chars v ++ rest)) := by
  unfold memberChars
  rw [List.append_assoc, quotedChars_append]
  rfl

section Members

variable {fuel : Nat} {before : List (String × Value)} {name : String}
  {v : Value} (hv : v.Plain) (hreads : Reads v)
  (hfuel : 2 * (chars v).length ≤ fuel) (rest : List Char)
include hv hreads hfuel

/-- If a closing brace stands behind a member, `readMembers` ends with it. -/
theorem readMembers_last :
    readMembers (fuel + 1) before (memberChars (name, v) ++ '\x7d' :: rest)
      = .ok (.map (putEntry name v before), rest) := by
  have hvalue := hreads fuel _ hfuel (ends_brace rest)
  have hspace : skipSpace (' ' :: (chars v ++ '\x7d' :: rest))
      = chars v ++ '\x7d' :: rest := (opens_chars hv _).space
  have hcolon : ∀ text, skipSpace (':' :: text) = ':' :: text := fun _ => rfl
  have hbrace : skipSpace ('\x7d' :: rest) = '\x7d' :: rest := rfl
  rw [memberChars_append]
  simp only [readMembers, readString_quoted, bind, Except.bind, hcolon, hspace,
    hvalue, hbrace, pure, Except.pure]

/-- If a comma stands behind a member, `readMembers` goes on. -/
theorem readMembers_next :
    readMembers (fuel + 1) before
        (memberChars (name, v) ++ ',' :: ' ' :: '\x22' :: rest)
      = readMembers fuel (putEntry name v before) ('\x22' :: rest) := by
  have hvalue := hreads fuel _ hfuel (ends_comma (' ' :: '\x22' :: rest))
  have hspace : skipSpace (' ' :: (chars v ++ ',' :: ' ' :: '\x22' :: rest))
      = chars v ++ ',' :: ' ' :: '\x22' :: rest := (opens_chars hv _).space
  have hcolon : ∀ text, skipSpace (':' :: text) = ':' :: text := fun _ => rfl
  have hcomma : skipSpace (',' :: ' ' :: '\x22' :: rest)
      = ',' :: ' ' :: '\x22' :: rest := rfl
  have hquote : skipSpace (' ' :: '\x22' :: rest) = '\x22' :: rest := rfl
  rw [memberChars_append]
  simp only [readMembers, readString_quoted, bind, Except.bind, hcolon, hspace,
    hvalue, hcomma, hquote]

end Members

/-- The `joined` texts of members start with the quote of a name. -/
theorem joined_members (member : String × Value)
    (members : List (String × Value)) :
    ∃ text, joined ((member :: members).map memberChars) = '\x22' :: text := by
  cases members with
  | nil => exact ⟨_, joined_singleton _⟩
  | cons next members => exact ⟨_, joined_cons_cons ..⟩

/-- The `joined` texts of members with distinct names are read by `readMembers`
up to the closing brace. -/
theorem readMembers_joined {members : List (String × Value)}
    (hne : members ≠ []) (hplain : ∀ member ∈ members, member.2.Plain)
    (hreads : ∀ member ∈ members, Reads member.2) (rest : List Char) :
    ∀ fuel before, ((before ++ members).map Prod.fst).Nodup →
      2 * (joined (members.map memberChars)).length + 1 ≤ fuel →
      readMembers fuel before
          (joined (members.map memberChars) ++ '\x7d' :: rest)
        = .ok (.map (before ++ members), rest) := by
  induction members with
  | nil => exact absurd rfl hne
  | cons member members ih =>
      intro fuel before hnodup hfuel
      obtain ⟨fuel, rfl⟩ : ∃ n, fuel = n + 1 := ⟨fuel - 1, by omega⟩
      obtain ⟨name, v⟩ := member
      obtain ⟨(hv : v.Plain), hplain⟩ := List.forall_mem_cons.1 hplain
      obtain ⟨(hread : Reads v), hreads⟩ := List.forall_mem_cons.1 hreads
      have hnew : putEntry name v before = before ++ [(name, v)] := by
        apply putEntry_of_not_mem
        rw [List.map_append, List.nodup_append] at hnodup
        intro hmem
        exact hnodup.2.2 _ hmem name (List.mem_cons_self ..) rfl
      have hlength : (chars v).length + 4
        ≤ (memberChars (name, v)).length := by
        simp [memberChars, quotedChars]
      cases members with
      | nil =>
          rw [List.map_cons, List.map_nil, joined_singleton] at hfuel ⊢
          rw [readMembers_last hv hread (by omega), hnew]
      | cons next members =>
          obtain ⟨text, htext⟩ := joined_members next members
          have hmore := ih (List.cons_ne_nil next members) hplain hreads
            fuel (before ++ [(name, v)])
            (by rw [List.append_assoc]; exact hnodup)
          rw [List.map_cons, List.map_cons, joined_cons_cons,
            ← List.map_cons] at hfuel ⊢
          simp only [List.length_append, List.length_cons] at hfuel
          have hmore := hmore (by omega)
          rw [htext, List.cons_append] at hmore
          rw [List.append_assoc, List.cons_append, List.cons_append, htext,
            List.cons_append, readMembers_next hv hread (by omega), hnew,
            hmore, List.append_assoc]
          rfl

theorem reads_map {members : List (String × Value)}
    (hnodup : (members.map Prod.fst).Nodup)
    (hplain : ∀ member ∈ members, member.2.Plain)
    (hreads : ∀ member ∈ members, Reads member.2) : Reads (.map members) := by
  intro fuel rest hfuel _
  rw [chars_map] at hfuel ⊢
  simp only [List.length_append, List.length_cons, List.length_nil] at hfuel
  obtain ⟨fuel, rfl⟩ : ∃ n, fuel = n + 1 := ⟨fuel - 1, by omega⟩
  rw [List.cons_append, List.cons_append, List.append_assoc]
  cases members with
  | nil => rfl
  | cons member members =>
      have hread := readMembers_joined (List.cons_ne_nil member members) hplain
        hreads rest fuel [] hnodup (by omega)
      obtain ⟨text, htext⟩ := joined_members member members
      rw [htext, List.cons_append] at hread ⊢
      exact hread

/-- The text of a `Plain` value reads as the value, before every rest that
`Ends` it. -/
theorem readValue_write {v : Value} (h : v.Plain) : Reads v := by
  induction h with
  | null => exact reads_null
  | bool b => exact reads_bool b
  | int hn => exact reads_int hn
  | string s => exact reads_string s
  | list hplain ih => exact reads_list hplain ih
  | map hnodup hplain ih => exact reads_map hnodup hplain ih

/-- Reading undoes writing: `read` gives back a `Plain` value from the text
that `write` makes of it. -/
theorem read_write {v : Value} (h : v.Plain) :
    read (write v).toList = .ok v := by
  have hends : Ends [] := nofun
  have hopens := opens_chars h []
  have hread := readValue_write h (2 * (chars v).length + 2) [] (by omega)
    hends
  rw [List.append_nil] at hopens hread
  have hall : readAll (chars v) = .ok v := by
    unfold readAll
    split
    · next heq => exact (hopens.order _ heq).elim
    · rw [hopens.space, hread]
      rfl
  show read (chars v) = _
  unfold read
  rw [hall]

end Json
end Colloquy
