import Regraft.Proofs.Entities
/-!
# Decoding in one pass

Unescaping replaces one kind of entity after the other, so that every replacement but the first sees what others have
made.  It should come to what `decoded` does, which goes through the text once and never looks again at what it has made
of an entity.  It does (`unescapeChars_eq_decoded`), because no entity comes up between the replacements.
-/

namespace Regraft.Text

variable {e : List Char × Char} {s : List Char} {c : Char}

/-! ## 1. One pass

The specification is one recursion on the text.  What unescaping does to an entity, and to any other character, are the
equations of that recursion. -/

/-- One pass from left to right, in which each entity becomes its character. -/
def decoded : List Char → List Char
  | '&' :: 'l' :: 't' :: ';' :: rest => '<' :: decoded rest
  | '&' :: 'g' :: 't' :: ';' :: rest => '>' :: decoded rest
  | '&' :: 'a' :: 'm' :: 'p' :: ';' :: rest => '&' :: decoded rest
  | c :: rest => c :: decoded rest
  | [] => []

theorem decoded_entity (he : e ∈ entities) (s : List Char) : decoded (e.1 ++ s) = e.2 :: decoded s := by
  simp only [entities, List.mem_cons, List.not_mem_nil, or_false] at he
  rcases he with rfl | rfl | rfl
  · rfl
  · rfl
  · rfl

theorem decoded_cons (h : ∀ e ∈ entities, ¬ e.1 <+: c :: s) : decoded (c :: s) = c :: decoded s := by
  have hlt := h ("&lt;".toList, '<') (by simp [entities])
  have hgt := h ("&gt;".toList, '>') (by simp [entities])
  have hamp := h ("&amp;".toList, '&') (by simp [entities])
  rw [decoded]
  · rintro rest rfl rfl
    exact hlt ⟨rest, rfl⟩
  · rintro rest rfl rfl
    exact hgt ⟨rest, rfl⟩
  · rintro rest rfl rfl
    exact hamp ⟨rest, rfl⟩

/-- The three replacements of unescaping make one pass. -/
theorem unescapeChars_eq_decoded (s : List Char) : unescapeChars s = decoded s := by
  induction s using entity_induction with
  | nil => rfl
  | entity e he s ih => rw [unescapeChars_entity he, decoded_entity he, ih]
  | other c s hnone ih => rw [unescapeChars_cons hnone, decoded_cons hnone, ih]

/-! ## 2. Ampersands

An ampersand in an escaped text begins the entity that stands for it, so decoding what has been escaped gives the text
back. -/

/-- No entity has another ampersand than the one that it begins with. -/
theorem entity_of_suffix (he : e ∈ entities) {a : List Char} (h : '&' :: a <:+ e.1) : '&' :: a = e.1 := by
  obtain ⟨name, hname, hamp, -⟩ := entity_eq he
  rw [hname] at h ⊢
  refine (List.suffix_cons_iff.mp h).resolve_right fun hlater => ?_
  rcases List.mem_append.mp (hlater.subset List.mem_cons_self) with hmem | hmem
  · exact hamp hmem
  · exact absurd hmem (by decide)

/-- Wherever there is an ampersand in an escaped text, an entity begins. -/
theorem entity_of_suffix_escapeChars {t : List Char} (h : '&' :: t <:+ escapeChars s) :
    ∃ e ∈ entities, e.1 <+: '&' :: t := by
  induction s with
  | nil => exact absurd (List.suffix_nil.mp h) (List.cons_ne_nil _ _)
  | cons c s ih =>
    rw [escapeChars_cons] at h
    rcases suffix_append_cases h with hrest | ⟨a, ha, heq, hsuffix⟩
    · exact ih hrest
    · obtain ⟨d, a, rfl⟩ := List.exists_cons_of_ne_nil ha
      obtain rfl : '&' = d := (List.cons.inj heq).1
      rcases exists_entity_of_escapeChar c with ⟨e, he, hchar, -⟩ | ⟨hc, hchar⟩
      · rw [hchar] at hsuffix
        refine ⟨e, he, ?_⟩
        rw [heq, ← entity_of_suffix he hsuffix]
        exact List.prefix_append _ _
      · rw [hchar] at hsuffix
        exact absurd (List.mem_singleton.mp (hsuffix.subset List.mem_cons_self)) hc.symm

/-- **Escaping is undone exactly.**  An escaped text is unescaped to the text that it was.  It has no bracket, and every
ampersand in it begins an entity.  Whatever text is unescaped, each of its entities is decoded once, and nothing that
comes of them is decoded again. -/
theorem escaping_undone (v w : String) :
    unescape (escape v) = v ∧
    ('<' ∉ (escape v).toList ∧ '>' ∉ (escape v).toList ∧
      ∀ t, '&' :: t <:+ (escape v).toList → ∃ e ∈ entities, e.1 <+: '&' :: t) ∧
    unescape w = .ofList (decoded w.toList) := by
  refine ⟨?_, ?_, ?_⟩
  · rw [unescape, escape, String.toList_ofList, unescapeChars_escapeChars, String.ofList_toList]
  · rw [escape, String.toList_ofList]
    exact ⟨not_mem_escapeChars _, greater_not_mem_escapeChars _, fun t => entity_of_suffix_escapeChars⟩
  · rw [unescape, unescapeChars_eq_decoded]

/-- The ampersand of the first entity makes no other with what follows it. -/
example : unescape "&amp;lt;&amp;amp;" = "&lt;&amp;" := by decide

end Regraft.Text
