/-
Who stands where among the listeners. A history says who joined a kind of
action and who left it, in order. Out of it comes who stands there now, and
since when: since the last time of joining that was not a repetition, and
only if no leaving came after it (`Since`). So joining again changes nothing,
leaving where one does not stand changes nothing, and who left and joined
again stands since the later time.

The rows of an emitter are told by its history in this way
(`Emitter.Keeps.change`): they hold whoever stands there, once, the longest
standing first. There is only one row like that (`Lineup.unique`).
-/
import Colloquy.Emitter
import Mathlib.Data.List.Sort

namespace Colloquy

/-- One change of a subscription: `listener` joins `kind`, or leaves it. -/
structure Change where
  kind : Action.Kind
  listener : String
  joins : Bool

/-- Listener `name` has been subscribed to `kind` since moment `m` of the
history: it joined then and did not leave later, and whenever it had joined
before, it had left by then. -/
structure Since (history : List Change) (kind : Action.Kind) (name : String)
    (m : Nat) : Prop where
  joined : history[m]? = some ⟨kind, name, true⟩
  stays : ∀ k, m < k → history[k]? ≠ some ⟨kind, name, false⟩
  anew : ∀ j < m, history[j]? = some ⟨kind, name, true⟩ →
    ∃ k, j < k ∧ k < m ∧ history[k]? = some ⟨kind, name, false⟩

/-- The names of the listeners subscribed to `kind`, without repetition,
ordered by the moment that `Since` gives. -/
structure Lineup (history : List Change) (kind : Action.Kind)
    (names : List String) : Prop where
  nodup : names.Nodup
  mem_iff : ∀ name, name ∈ names ↔ ∃ m, Since history kind name m
  ordered : names.Pairwise fun a b =>
    ∀ m n, Since history kind a m → Since history kind b n → m < n

variable {history : List Change} {kind : Action.Kind} {name : String}
  {names : List String}

-- ================================================================= moments

theorem Since.lt_length {m : Nat} (h : Since history kind name m) :
    m < history.length :=
  (List.getElem?_eq_some_iff.1 h.joined).1

/-- A listener that joined at `j` and did not leave later is subscribed since
`j` or since an earlier moment. -/
theorem exists_since {j : Nat}
    (hjoined : history[j]? = some ⟨kind, name, true⟩)
    (hstays : ∀ k, j < k → history[k]? ≠ some ⟨kind, name, false⟩) :
    ∃ m, Since history kind name m := by
  induction j using Nat.strong_induction_on with
  | _ j ih =>
      by_cases hanew : ∀ i < j, history[i]? = some ⟨kind, name, true⟩ →
          ∃ k, i < k ∧ k < j ∧ history[k]? = some ⟨kind, name, false⟩
      · exact ⟨j, hjoined, hstays, hanew⟩
      · push Not at hanew
        obtain ⟨i, hij, hi, hbetween⟩ := hanew
        refine ih i hij hi fun k hik hk => ?_
        rcases Nat.lt_trichotomy k j with hkj | rfl | hjk
        · exact hbetween k hik hkj hk
        · rw [hjoined] at hk
          cases hk
        · exact hstays k hjk hk

/-- Whether `Since` holds depends only on the changes of this listener with
this kind. -/
theorem Since.congr {history' : List Change} {m : Nat}
    (hsame : ∀ (k : Nat) joins, history'[k]? = some ⟨kind, name, joins⟩
      ↔ history[k]? = some ⟨kind, name, joins⟩)
    (h : Since history kind name m) : Since history' kind name m where
  joined := (hsame m true).2 h.joined
  stays k hk hleft := h.stays k hk ((hsame k false).1 hleft)
  anew j hj hjoined := by
    obtain ⟨k, hjk, hkm, hleft⟩ := h.anew j hj ((hsame j true).1 hjoined)
    exact ⟨k, hjk, hkm, (hsame k false).2 hleft⟩

/-- A history determines the `Lineup` of a kind. -/
theorem Lineup.unique {names' : List String}
    (h : Lineup history kind names) (h' : Lineup history kind names') :
    names = names' := by
  have hperm : names.Perm names' := (List.perm_ext_iff_of_nodup h.nodup
    h'.nodup).2 fun name => (h.mem_iff name).trans (h'.mem_iff name).symm
  refine hperm.eq_of_pairwise (fun a b ha hb hab hba => ?_) h.ordered
    h'.ordered
  obtain ⟨m, hm⟩ := (h.mem_iff a).1 ha
  obtain ⟨n, hn⟩ := (h'.mem_iff b).1 hb
  exact absurd (hab m n hm hn) (Nat.lt_asymm (hba n m hn hm))

-- ============================================================== one change

/-- The entries of a history with one more change at its end. -/
theorem getElem?_snoc_iff {change other : Change} {k : Nat} :
    (history ++ [change])[k]? = some other
      ↔ history[k]? = some other ∨ k = history.length ∧ change = other := by
  rcases Nat.lt_trichotomy k history.length with hlt | rfl | hgt
  · rw [List.getElem?_append_left hlt]
    exact ⟨.inl, fun h => h.resolve_right fun hk => Nat.ne_of_lt hlt hk.1⟩
  · rw [List.getElem?_concat_length, List.getElem?_eq_none (Nat.le_refl _)]
    simp
  · rw [List.getElem?_eq_none (by simp; omega),
      List.getElem?_eq_none (Nat.le_of_lt hgt)]
    simp [Nat.ne_of_gt hgt]

/-- A change of another listener, or with another kind, leaves `Since` as it
is. -/
theorem since_snoc_other {change : Change} {m : Nat}
    (hother : ¬ (change.kind = kind ∧ change.listener = name)) :
    Since (history ++ [change]) kind name m ↔ Since history kind name m := by
  have hsame : ∀ (k : Nat) joins,
      (history ++ [change])[k]? = some ⟨kind, name, joins⟩
        ↔ history[k]? = some ⟨kind, name, joins⟩ := by
    intro k joins
    rw [getElem?_snoc_iff]
    refine ⟨fun h => h.resolve_right ?_, .inl⟩
    rintro ⟨-, rfl⟩
    exact hother ⟨rfl, rfl⟩
  exact ⟨Since.congr fun k joins => (hsame k joins).symm, Since.congr hsame⟩

/-- A listener that leaves last is `Since` no moment subscribed. -/
theorem not_since_left {m : Nat} :
    ¬ Since (history ++ [⟨kind, name, false⟩]) kind name m := by
  intro h
  have hlength := h.lt_length
  rw [List.length_append, List.length_singleton] at hlength
  have hm : m ≠ history.length := by
    rintro rfl
    have hjoined := h.joined
    rw [List.getElem?_concat_length] at hjoined
    cases hjoined
  exact h.stays history.length (by omega) List.getElem?_concat_length

/-- After a listener joins, it is subscribed since `m` if it was before, and
since the new moment if it was not subscribed. -/
theorem since_joined_iff {m : Nat} :
    Since (history ++ [⟨kind, name, true⟩]) kind name m
      ↔ Since history kind name m
        ∨ m = history.length ∧ ∀ j, ¬ Since history kind name j := by
  have hleft : ∀ k : Nat, (history ++ [⟨kind, name, true⟩])[k]?
        = some ⟨kind, name, false⟩
      ↔ history[k]? = some ⟨kind, name, false⟩ := by
    intro k
    rw [getElem?_snoc_iff]
    refine ⟨fun h => h.resolve_right ?_, .inl⟩
    rintro ⟨-, hchange⟩
    cases hchange
  constructor
  · intro h
    rcases getElem?_snoc_iff.1 h.joined with hjoined | ⟨rfl, -⟩
    · left
      refine ⟨hjoined, fun k hk hleave => h.stays k hk ((hleft k).2 hleave),
        fun j hj hbefore => ?_⟩
      obtain ⟨k, hjk, hkm, hleave⟩ :=
        h.anew j hj (getElem?_snoc_iff.2 (.inl hbefore))
      exact ⟨k, hjk, hkm, (hleft k).1 hleave⟩
    · right
      refine ⟨rfl, fun j hsince => ?_⟩
      obtain ⟨k, hjk, -, hleave⟩ := h.anew j hsince.lt_length
        (getElem?_snoc_iff.2 (.inl hsince.joined))
      exact hsince.stays k hjk ((hleft k).1 hleave)
  · rintro (h | ⟨rfl, hnever⟩)
    · refine ⟨getElem?_snoc_iff.2 (.inl h.joined),
        fun k hk hleave => h.stays k hk ((hleft k).1 hleave),
        fun j hj hbefore => ?_⟩
      rcases getElem?_snoc_iff.1 hbefore with hbefore | ⟨rfl, -⟩
      · obtain ⟨k, hjk, hkm, hleave⟩ := h.anew j hj hbefore
        exact ⟨k, hjk, hkm, (hleft k).2 hleave⟩
      · exact absurd h.lt_length (Nat.lt_asymm hj)
    · refine ⟨List.getElem?_concat_length, fun k hk hleave => ?_,
        fun j hj hbefore => ?_⟩
      · rw [hleft, List.getElem?_eq_none (Nat.le_of_lt hk)] at hleave
        cases hleave
      · rw [List.getElem?_append_left hj] at hbefore
        by_contra hnone
        push Not at hnone
        obtain ⟨m, hm⟩ := exists_since hbefore fun k hjk hleave => by
          have hlt := (List.getElem?_eq_some_iff.1 hleave).1
          exact hnone k hjk hlt ((hleft k).2 hleave)
        exact hnever m hm

-- ==================================================================== rows

/-- A change with another kind leaves the `Lineup` as it is. -/
theorem Lineup.other (h : Lineup history kind names) {change : Change}
    (hother : change.kind ≠ kind) :
    Lineup (history ++ [change]) kind names := by
  have hsame : ∀ {a m}, Since (history ++ [change]) kind a m
      ↔ Since history kind a m := fun {a m} =>
    since_snoc_other fun hchange => hother hchange.1
  refine ⟨h.nodup, fun a => ?_, ?_⟩
  · rw [h.mem_iff]
    exact exists_congr fun m => hsame.symm
  · exact h.ordered.imp fun hab m n hm hn => hab m n (hsame.1 hm) (hsame.1 hn)

/-- A listener that leaves is removed from the `Lineup`. -/
theorem Lineup.left (h : Lineup history kind names) :
    Lineup (history ++ [⟨kind, name, false⟩]) kind
      (names.filter (· ≠ name)) := by
  have hsame : ∀ {a m}, a ≠ name →
      (Since (history ++ [⟨kind, name, false⟩]) kind a m
        ↔ Since history kind a m) := fun {a m} ha =>
    since_snoc_other fun hchange => ha hchange.2.symm
  refine ⟨h.nodup.filter _, fun a => ?_, ?_⟩
  · rw [List.mem_filter, h.mem_iff, decide_eq_true_iff]
    constructor
    · rintro ⟨⟨m, hm⟩, ha⟩
      exact ⟨m, (hsame ha).2 hm⟩
    · rintro ⟨m, hm⟩
      have ha : a ≠ name := by
        rintro rfl
        exact not_since_left hm
      exact ⟨⟨m, (hsame ha).1 hm⟩, ha⟩
  · refine List.Pairwise.imp_of_mem ?_ (h.ordered.filter _)
    intro a b ha hb hab m n hm hn
    have ha' := of_decide_eq_true (List.mem_filter.1 ha).2
    have hb' := of_decide_eq_true (List.mem_filter.1 hb).2
    exact hab m n ((hsame ha').1 hm) ((hsame hb').1 hn)

/-- A listener that joins while it is subscribed keeps its place in the
`Lineup`. -/
theorem Lineup.joined_again (h : Lineup history kind names)
    (hmem : name ∈ names) :
    Lineup (history ++ [⟨kind, name, true⟩]) kind names := by
  obtain ⟨j, hj⟩ := (h.mem_iff name).1 hmem
  have hsame : ∀ {a m}, Since (history ++ [⟨kind, name, true⟩]) kind a m
      ↔ Since history kind a m := by
    intro a m
    by_cases ha : a = name
    · subst ha
      rw [since_joined_iff]
      exact ⟨fun h => h.resolve_right fun hnow => hnow.2 j hj, .inl⟩
    · exact since_snoc_other fun hchange => ha hchange.2.symm
  refine ⟨h.nodup, fun a => ?_, ?_⟩
  · rw [h.mem_iff]
    exact exists_congr fun m => hsame.symm
  · exact h.ordered.imp fun hab m n hm hn => hab m n (hsame.1 hm) (hsame.1 hn)

/-- A listener that joins and was not subscribed comes last in the `Lineup`. -/
theorem Lineup.joined (h : Lineup history kind names)
    (hmem : name ∉ names) :
    Lineup (history ++ [⟨kind, name, true⟩]) kind (names ++ [name]) := by
  have hnever : ∀ j, ¬ Since history kind name j := fun j hj =>
    hmem ((h.mem_iff name).2 ⟨j, hj⟩)
  have hsame : ∀ {a m}, a ≠ name →
      (Since (history ++ [⟨kind, name, true⟩]) kind a m
        ↔ Since history kind a m) := fun {a m} ha =>
    since_snoc_other fun hchange => ha hchange.2.symm
  have hnow : ∀ {m}, Since (history ++ [⟨kind, name, true⟩]) kind name m
      ↔ m = history.length := by
    intro m
    rw [since_joined_iff]
    exact ⟨fun h => (h.resolve_left (hnever m)).1, fun h => .inr ⟨h, hnever⟩⟩
  have hne : ∀ a ∈ names, a ≠ name := fun a ha heq => hmem (heq ▸ ha)
  refine ⟨?_, fun a => ?_, ?_⟩
  · exact List.nodup_append.2 ⟨h.nodup, List.nodup_singleton _,
      fun a ha b hb => List.mem_singleton.1 hb ▸ hne a ha⟩
  · rw [List.mem_append, List.mem_singleton]
    constructor
    · rintro (ha | rfl)
      · obtain ⟨m, hm⟩ := (h.mem_iff a).1 ha
        exact ⟨m, (hsame (hne a ha)).2 hm⟩
      · exact ⟨_, hnow.2 rfl⟩
    · rintro ⟨m, hm⟩
      by_cases ha : a = name
      · exact .inr ha
      · exact .inl ((h.mem_iff a).2 ⟨m, (hsame ha).1 hm⟩)
  · refine List.pairwise_append.2 ⟨?_, List.pairwise_singleton _ _, ?_⟩
    · refine List.Pairwise.imp_of_mem ?_ h.ordered
      intro a b ha hb hab m n hm hn
      exact hab m n ((hsame (hne a ha)).1 hm) ((hsame (hne b hb)).1 hn)
    · intro a ha b hb m n hm hn
      rw [List.mem_singleton.1 hb] at hn
      rw [hnow.1 hn]
      exact ((hsame (hne a ha)).1 hm).lt_length

-- ================================================================= emitters

namespace Emitter

/-- The emitter after a change: `subscribe` or `unsubscribe`. -/
def change (m : Emitter) (c : Change) : Emitter :=
  if c.joins then m.subscribe c.kind c.listener
  else m.unsubscribe c.kind c.listener

/-- For every kind, the names in the emitter are the `Lineup` of the history.
-/
def Keeps (m : Emitter) (history : List Change) : Prop :=
  ∀ kind, Lineup history kind (m.listeners kind)

/-- A new emitter `Keeps` the empty history. -/
theorem keeps_nothing : ({} : Emitter).Keeps [] := by
  intro kind
  refine ⟨List.nodup_nil, fun name => ?_, List.Pairwise.nil⟩
  refine ⟨fun h => absurd h List.not_mem_nil, fun ⟨m, hm⟩ => ?_⟩
  exact absurd hm.lt_length (Nat.not_lt_zero m)

/-- If an emitter keeps a history, then after a `change` it keeps the history
with that change at its end. -/
theorem Keeps.change {m : Emitter} (h : m.Keeps history) (c : Change) :
    (m.change c).Keeps (history ++ [c]) := by
  obtain ⟨kind, name, joins⟩ := c
  intro other
  have hother : ∀ names, kind ≠ other →
      Lineup (history ++ [⟨kind, name, joins⟩]) other
        ((m.update kind names).listeners other) := by
    intro names hkind
    show Lineup _ other (if other = kind then names else m.listeners other)
    rw [if_neg (Ne.symm hkind)]
    exact (h other).other hkind
  have hsame : ∀ names, (m.update kind names).listeners kind = names :=
    fun _ => if_pos rfl
  cases joins with
  | false =>
      show Lineup _ other ((m.unsubscribe kind name).listeners other)
      unfold unsubscribe
      by_cases hkind : kind = other
      · subst hkind
        rw [hsame]
        exact (h kind).left
      · exact hother _ hkind
  | true =>
      show Lineup _ other ((m.subscribe kind name).listeners other)
      unfold subscribe
      by_cases hmem : name ∈ m.listeners kind
      · rw [if_pos hmem]
        by_cases hkind : kind = other
        · subst hkind
          exact (h kind).joined_again hmem
        · exact (h other).other hkind
      · rw [if_neg hmem]
        by_cases hkind : kind = other
        · subst hkind
          rw [hsame]
          exact (h kind).joined hmem
        · exact hother _ hkind

end Emitter
end Colloquy
