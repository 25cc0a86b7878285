/-
Which variables are worth a warning. The check of a definition goes by how a
path is spelt: it knows four names, and every path that has something behind
the root of remembered values. Rendering goes by what a path refers to. Each
has its own list of names, and the two agree on every path that a template
can hold. A path that is not known is rendered as nothing in any context,
and for one that is known there is a context in which it shows something; so
a variable is reported just if nothing can come of it
(`unknownVariable_iff_silent`).

On the root alone they would not agree, for there rendering would look up an
empty key. No path is the root: it ends in a dot, and names are not empty.
-/
import Colloquy.Problem
import Colloquy.Proofs.Template.Outline

namespace Colloquy

namespace Template

/-- What `isKnown` accepts: the four names, and `metadata.` with a key. -/
theorem isKnown_iff {path : String} :
    isKnown path = true ↔ path ∈ knownNames
      ∨ ∃ key, key ≠ "" ∧ path = "metadata." ++ key := by
  have hlonger : ∀ key : String,
      metadataRoot.length < ("metadata." ++ key).toList.length
        ↔ key ≠ "" := by
    intro key
    rw [String.toList_append, List.length_append,
      show "metadata.".toList.length = metadataRoot.length from rfl, ne_eq,
      ← String.toList_eq_nil_iff, ← List.length_eq_zero_iff]
    omega
  rw [isKnown, Bool.or_eq_true, Bool.and_eq_true, List.contains_iff_mem,
    isPrefixOf_root_iff, decide_eq_true_iff]
  refine or_congr_right ⟨?_, ?_⟩
  · rintro ⟨⟨key, rfl⟩, hkey⟩
    exact ⟨key, (hlonger key).1 hkey, rfl⟩
  · rintro ⟨key, hkey, rfl⟩
    exact ⟨⟨key, rfl⟩, (hlonger key).2 hkey⟩

theorem IsPath.ne_root {path : String} (h : IsPath path) :
    path ≠ "metadata." := by
  rintro rfl
  exact absurd (isPath_iff.2 h) (by decide +kernel)

/-- If a path is not known, `textOf` is empty. -/
theorem textOf_of_not_known {path : String} (hpath : IsPath path)
    (h : isKnown path = false) (ctx : Context) : textOf ctx path = "" := by
  have hspelt : ¬ (path ∈ knownNames
      ∨ ∃ key, key ≠ "" ∧ path = "metadata." ++ key) := by
    rw [← isKnown_iff, h]
    exact Bool.false_ne_true
  rw [not_or, not_exists] at hspelt
  refine says_iff.1 (.unknown hspelt.1 ?_)
  rintro key rfl
  by_cases hkey : key = ""
  · subst hkey
    exact hpath.ne_root String.append_empty
  · exact hspelt.2 key ⟨hkey, rfl⟩

/-- If a path is known, `textOf` is not empty in some context. -/
theorem exists_textOf_ne {path : String} (h : isKnown path = true) :
    ∃ ctx, textOf ctx path ≠ "" := by
  rcases isKnown_iff.1 h with hname | ⟨key, -, rfl⟩
  · simp only [knownNames, List.mem_cons, List.not_mem_nil, or_false] at hname
    rcases hname with rfl | rfl | rfl | rfl
    · exact ⟨{ buffer := "text" }, by decide⟩
    · exact ⟨{}, by decide⟩
    · exact ⟨{}, by decide⟩
    · exact ⟨{}, by decide⟩
  · let remembering : Context :=
      { metadata := Catalog.empty.put key (.string "text") }
    have hget : remembering.metadata.get? key = some (.string "text") := by
      rw [Catalog.get?_put, if_pos rfl]
    have htext : Value.string "text" ≠ .null := by
      intro h
      cases h
    refine ⟨remembering, ?_⟩
    rw [says_iff.1 (.remembered hget htext)]
    decide

/-- The `variablePaths` of a template are paths. -/
theorem isPath_of_mem_variablePaths {template path : String}
    (h : path ∈ variablePaths template) : IsPath path := by
  have hfound : (Outline.ofPieces (pieces template)).LaysOut template :=
    Outline.laysOut_iff.2 rfl
  rw [hfound.variablePaths_eq] at h
  exact hfound.paths path h

/-- A `placeholder` alone is rendered as `textOf` its path. -/
theorem render_of_isPath {path : String} (h : IsPath path) (ctx : Context) :
    render (placeholder path) ctx = textOf ctx path := by
  have hrender := render_placeholder (isPath_iff.2 h) "" ctx
  rw [String.append_empty] at hrender
  exact hrender.trans String.append_empty

end Template

/-- The problems of a definition have an `unknownVariable` for just the
variables of its `templates` that are not known. -/
theorem Definition.unknownVariable_mem_problems {d : Definition}
    {site : Problem.Site} {path : String} :
    .unknownVariable site path ∈ d.problems
      ↔ ∃ template, (site, template) ∈ d.templates
        ∧ path ∈ Template.variablePaths template
        ∧ Template.isKnown path = false := by
  unfold problems
  rw [List.mem_append, List.mem_append, or_assoc]
  constructor
  · rintro (hinitial | hstate | htemplate)
    · by_cases hdefined : (d.state? (some d.initial)).isSome = true
      · rw [if_pos hdefined] at hinitial
        cases hinitial
      · rw [if_neg hdefined] at hinitial
        cases List.mem_singleton.1 hinitial
    · obtain ⟨⟨key, s⟩, -, hstate⟩ := List.mem_flatMap.1 hstate
      rcases List.mem_append.1 hstate with hid | htarget
      · by_cases hkey : s.id = key
        · rw [if_pos hkey] at hid
          cases hid
        · rw [if_neg hkey] at hid
          cases List.mem_singleton.1 hid
      · obtain ⟨⟨other, t⟩, -, htarget⟩ := List.mem_filterMap.1 htarget
        dsimp only at htarget
        by_cases hdangling : d.isDangling t = true
        · rw [if_pos hdangling] at htarget
          cases htarget
        · rw [if_neg hdangling] at htarget
          cases htarget
    · obtain ⟨⟨other, template⟩, hmem, htemplate⟩ :=
        List.mem_flatMap.1 htemplate
      obtain ⟨seen, hvariable, heq⟩ := List.mem_map.1 htemplate
      cases heq
      obtain ⟨hpath, hunknown⟩ := List.mem_filter.1 hvariable
      exact ⟨template, hmem, hpath, (Bool.not_eq_true' _).mp hunknown⟩
  · rintro ⟨template, hmem, hpath, hunknown⟩
    refine .inr (.inr (List.mem_flatMap.2 ⟨(site, template), hmem, ?_⟩))
    exact List.mem_map.2 ⟨path,
      List.mem_filter.2 ⟨hpath, (Bool.not_eq_true' _).mpr hunknown⟩, rfl⟩

namespace Template

/-- Exactly the variables from which nothing can come are reported. A variable
of a template that is not known is rendered as nothing in every context, and
one that is known is rendered as something in some context. So the check of a
definition reports a variable of a template that it reads just if no context
makes it show anything. -/
theorem unknownVariable_iff_silent :
    (∀ template, ∀ path ∈ variablePaths template,
      (isKnown path = false → ∀ ctx, render (placeholder path) ctx = "")
        ∧ (isKnown path = true → ∃ ctx, render (placeholder path) ctx ≠ ""))
      ∧ ∀ (d : Definition) (site : Problem.Site) (path : String),
        .unknownVariable site path ∈ d.problems
          ↔ ∃ template, (site, template) ∈ d.templates
            ∧ path ∈ variablePaths template
            ∧ ∀ ctx, render (placeholder path) ctx = "" := by
  have hexact : ∀ template, ∀ path ∈ variablePaths template,
      (isKnown path = false → ∀ ctx, render (placeholder path) ctx = "")
        ∧ (isKnown path = true
          → ∃ ctx, render (placeholder path) ctx ≠ "") := by
    intro template path hmem
    have hpath := isPath_of_mem_variablePaths hmem
    constructor
    · intro hknown ctx
      rw [render_of_isPath hpath, textOf_of_not_known hpath hknown]
    · intro hknown
      obtain ⟨ctx, hctx⟩ := exists_textOf_ne hknown
      exact ⟨ctx, by rwa [render_of_isPath hpath]⟩
  refine ⟨hexact, fun d site path => ?_⟩
  rw [Definition.unknownVariable_mem_problems]
  refine exists_congr fun template => and_congr_right fun _ =>
    and_congr_right fun hmem => ?_
  obtain ⟨hsilent, hshows⟩ := hexact template path hmem
  refine ⟨hsilent, fun hnothing => ?_⟩
  rw [← Bool.not_eq_true]
  intro hknown
  obtain ⟨ctx, hctx⟩ := hshows hknown
  exact hctx (hnothing ctx)

end Template
end Colloquy
