import Regraft.Proofs.References
/-!
# Entities and the texts that they stand in

Unescaping replaces three entities, one kind after the other.  All that later proofs know of it is in section 1: it
goes through a text once, and at every place there is an entity, which becomes its character, or there is none, and
the next character stays (`unescapeChars_entity`, `unescapeChars_cons`).

So two texts may be unescaped one by one unless an entity goes from the first into the second (`Meets`).  If one does,
what is made of the two together is shorter (`length_unescapeChars_lt`), and for texts in a row that makes an
equivalence (`unescapeChars_flatten_iff`).  An escaped text meets no other, because its ampersands begin entities
that end in it (`not_meets_escapeChars`).
-/

namespace Regraft.Text

/-! ## 1. Unescaping, entity by entity

Three replacements in a row are one pass, because the text that one of them makes is never a part of what a later one
looks for.  From here on nothing is said of replacements any more. -/

/-- The entities, each with its character. -/
def entities : List (List Char × Char) :=
  [("&lt;".toList, '<'), ("&gt;".toList, '>'), ("&amp;".toList, '&')]

variable {e : List Char × Char} {s t : List Char} {c : Char}

/-- An entity is a name between an ampersand and a semicolon. -/
theorem entity_eq (he : e ∈ entities) : ∃ name, e.1 = '&' :: (name ++ [';']) ∧ '&' ∉ name ∧ ';' ∉ name := by
  simp only [entities, List.mem_cons, List.not_mem_nil, or_false] at he
  rcases he with rfl | rfl | rfl
  · exact ⟨['l', 't'], by decide⟩
  · exact ⟨['g', 't'], by decide⟩
  · exact ⟨['a', 'm', 'p'], by decide⟩

theorem unescapeChars_entity (he : e ∈ entities) (s : List Char) :
    unescapeChars (e.1 ++ s) = e.2 :: unescapeChars s := by
  simp only [entities, List.mem_cons, List.not_mem_nil, or_false] at he
  rcases he with rfl | rfl | rfl
  · show unescapeChars ('&' :: 'l' :: 't' :: ';' :: s) = '<' :: unescapeChars s
    simp [unescapeChars, replaceAll, replaceAfter]
  · show unescapeChars ('&' :: 'g' :: 't' :: ';' :: s) = '>' :: unescapeChars s
    simp [unescapeChars, replaceAll, replaceAfter]
  · show unescapeChars ('&' :: 'a' :: 'm' :: 'p' :: ';' :: s) = '&' :: unescapeChars s
    simp [unescapeChars, replaceAll, replaceAfter]

/-- What begins no entity stays.  No entity comes up from what has been replaced before, because that leaves brackets,
which stand in no entity. -/
theorem unescapeChars_cons (h : ∀ e ∈ entities, ¬ e.1 <+: c :: s) :
    unescapeChars (c :: s) = c :: unescapeChars s := by
  have hlt : ¬ "&lt;".toList <+: c :: s := h ("&lt;".toList, '<') (by simp [entities])
  have hgt : ¬ "&gt;".toList <+: c :: replaceAll "&lt;".toList ['<'] s := by
    rw [← replaceAll_cons hlt]
    exact fun hbegins => h ("&gt;".toList, '>') (by simp [entities]) (prefix_of_prefix_replaceAll (by decide) hbegins)
  have hamp : ¬ "&amp;".toList <+: c :: replaceAll "&gt;".toList ['>'] (replaceAll "&lt;".toList ['<'] s) := by
    rw [← replaceAll_cons hgt, ← replaceAll_cons hlt]
    exact fun hbegins => h ("&amp;".toList, '&') (by simp [entities])
      (prefix_of_prefix_replaceAll (by decide) (prefix_of_prefix_replaceAll (by decide) hbegins))
  rw [unescapeChars, replaceAll_cons hlt, replaceAll_cons hgt, replaceAll_cons hamp]
  rfl

/-- Induction on a text, of which an entity or else one character is taken. -/
theorem entity_induction {P : List Char → Prop} (nil : P []) (entity : ∀ e ∈ entities, ∀ s, P s → P (e.1 ++ s))
    (other : ∀ c s, (∀ e ∈ entities, ¬ e.1 <+: c :: s) → P s → P (c :: s)) (s : List Char) : P s := by
  induction hn : s.length using Nat.strongRecOn generalizing s with
  | ind n ih =>
    cases s with
    | nil => exact nil
    | cons c s =>
      by_cases h : ∃ e ∈ entities, e.1 <+: c :: s
      · obtain ⟨e, he, rest, heq⟩ := h
        obtain ⟨name, hname, -, -⟩ := entity_eq he
        rw [← heq]
        refine entity e he rest (ih rest.length ?_ rest rfl)
        rw [← hn, ← heq, hname]
        simp
        omega
      · have hnone : ∀ e ∈ entities, ¬ e.1 <+: c :: s := fun e he hbegins => h ⟨e, he, hbegins⟩
        exact other c s hnone (ih s.length (by rw [← hn]; exact Nat.lt_succ_self _) s rfl)

/-- What begins with no ampersand begins no entity. -/
theorem not_prefix_of_ne (he : e ∈ entities) (hc : c ≠ '&') (s : List Char) : ¬ e.1 <+: c :: s := by
  obtain ⟨name, hname, -, -⟩ := entity_eq he
  rw [hname]
  exact fun hbegins => hc (List.cons_prefix_cons.mp hbegins).1.symm

theorem unescapeChars_append_of_not_mem (h : '&' ∉ s) (t : List Char) :
    unescapeChars (s ++ t) = s ++ unescapeChars t := by
  induction s with
  | nil => rfl
  | cons c s ih =>
    obtain ⟨hc, hs⟩ : '&' ≠ c ∧ '&' ∉ s := by simpa using h
    rw [List.cons_append, unescapeChars_cons fun e he => not_prefix_of_ne he hc.symm _, ih hs]
    rfl

theorem exists_entity_of_escapeChar (c : Char) :
    (∃ e ∈ entities, escapeChar c = e.1 ∧ e.2 = c) ∨ c ≠ '&' ∧ escapeChar c = [c] := by
  by_cases hamp : c = '&'
  · exact .inl ⟨("&amp;".toList, '&'), by simp [entities], by rw [hamp]; rfl, hamp.symm⟩
  by_cases hlt : c = '<'
  · exact .inl ⟨("&lt;".toList, '<'), by simp [entities], by rw [hlt]; rfl, hlt.symm⟩
  by_cases hgt : c = '>'
  · exact .inl ⟨("&gt;".toList, '>'), by simp [entities], by rw [hgt]; rfl, hgt.symm⟩
  exact .inr ⟨hamp, escapeChar_of_ne hamp hlt hgt⟩

/-- **Unescaping undoes escaping.** -/
theorem unescapeChars_escapeChars (s : List Char) : unescapeChars (escapeChars s) = s := by
  induction s with
  | nil => rfl
  | cons c s ih =>
    rw [escapeChars_cons]
    rcases exists_entity_of_escapeChar c with ⟨e, he, heq, rfl⟩ | ⟨hc, heq⟩
    · rw [heq, unescapeChars_entity he, ih]
    · rw [heq, List.singleton_append, unescapeChars_cons fun e he => not_prefix_of_ne he hc _, ih]

/-! ## 2. Two texts

An entity that goes from one text into the next has its beginning in the first and its end in the second.  If there is
none, the two are unescaped apart.  If there is one, the whole is shorter than the parts, so the difference can be told
from lengths alone. -/

/-- An entity begins in the first text and ends in the second. -/
def Meets (s t : List Char) : Prop :=
  ∃ e ∈ entities, ∃ a b, e.1 = a ++ b ∧ a ≠ [] ∧ b ≠ [] ∧ a <:+ s ∧ b <+: t

/-- What of an entity stands in front of another part of it begins with the ampersand and has no semicolon; that other
part has no ampersand. -/
theorem entity_split (he : e ∈ entities) {a b : List Char} (heq : e.1 = a ++ b) (ha : a ≠ []) (hb : b ≠ []) :
    a.head? = some '&' ∧ ';' ∉ a ∧ '&' ∉ b := by
  obtain ⟨name, hname, hamp, hsemicolon⟩ := entity_eq he
  obtain ⟨c, a, rfl⟩ := List.exists_cons_of_ne_nil ha
  obtain ⟨b, d, rfl⟩ := (List.eq_nil_or_concat b).resolve_left hb
  rw [hname, List.cons_append, List.concat_eq_append, ← List.append_assoc] at heq
  obtain ⟨hc, hrest⟩ := List.cons.inj heq
  obtain ⟨rfl, hd⟩ := List.append_inj' hrest rfl
  subst hc
  cases hd
  simp only [List.mem_append, not_or] at hamp hsemicolon
  simp [hamp.2, hsemicolon.1]

theorem not_meets_nil (t : List Char) : ¬ Meets [] t := by
  rintro ⟨e, -, a, b, -, ha, -, hsuffix, -⟩
  exact ha (List.suffix_nil.mp hsuffix)

theorem Meets.append_left (h : Meets s t) (u : List Char) : Meets (u ++ s) t := by
  obtain ⟨e, he, a, b, heq, ha, hb, hsuffix, hbegins⟩ := h
  exact ⟨e, he, a, b, heq, ha, hb, hsuffix.trans (List.suffix_append u s), hbegins⟩

/-- A suffix of two texts is one of the second or goes back into the first. -/
theorem suffix_append_cases {α : Type} {a s t : List α} (h : a <:+ s ++ t) :
    a <:+ t ∨ ∃ a', a' ≠ [] ∧ a = a' ++ t ∧ a' <:+ s := by
  obtain ⟨x, hx⟩ := h
  rcases List.append_eq_append_iff.mp hx with ⟨y, rfl, rfl⟩ | ⟨y, rfl, rfl⟩
  · by_cases hy : y = []
    · subst hy
      exact .inl (List.suffix_refl t)
    · exact .inr ⟨y, hy, rfl, List.suffix_append x y⟩
  · exact .inl (List.suffix_append y a)

/-- What goes on after an entity meets a text only if it does so without it. -/
theorem Meets.of_entity_append (he : e ∈ entities) (h : Meets (e.1 ++ s) t) : Meets s t := by
  obtain ⟨e', he', a, b, heq, ha, hb, hsuffix, hbegins⟩ := h
  rcases suffix_append_cases hsuffix with hrest | ⟨a', ha', rfl, hback⟩
  · exact ⟨e', he', a, b, heq, ha, hb, hrest, hbegins⟩
  · -- The part would reach back over the semicolon of the entity before it.
    exfalso
    obtain ⟨name, hname, -, -⟩ := entity_eq he
    obtain ⟨-, hsemicolon, -⟩ := entity_split he' heq ha hb
    have hends : [';'] <:+ a' := by
      have hends' : [';'] <:+ e.1 := by
        rw [hname, ← List.cons_append]
        exact List.suffix_append _ _
      exact List.suffix_of_suffix_length_le hends' hback (List.length_pos_iff.mpr ha')
    exact hsemicolon (List.mem_append_left s (hends.subset List.mem_cons_self))

/-- A text meets another as its rest does, unless it is itself the part of an entity. -/
theorem Meets.of_cons (h : Meets (c :: s) t) : Meets s t ∨ c = '&' ∧ ∃ e ∈ entities, e.1 <+: c :: (s ++ t) := by
  obtain ⟨e, he, a, b, heq, ha, hb, hsuffix, hbegins⟩ := h
  rcases List.suffix_cons_iff.mp hsuffix with rfl | hsuffix
  · obtain ⟨hhead, -, -⟩ := entity_split he heq ha hb
    refine .inr ⟨Option.some.inj hhead, e, he, ?_⟩
    rw [heq, ← List.cons_append]
    exact (List.prefix_append_right_inj _).mpr hbegins
  · exact .inl ⟨e, he, a, b, heq, ha, hb, hsuffix, hbegins⟩

/-- An escaped text meets no other. -/
theorem not_meets_escapeChars (s t : List Char) : ¬ Meets (escapeChars s) t := by
  induction s with
  | nil => exact not_meets_nil t
  | cons c s ih =>
    rw [escapeChars_cons]
    rcases exists_entity_of_escapeChar c with ⟨e, he, heq, -⟩ | ⟨hc, heq⟩
    · rw [heq]
      exact fun h => ih (h.of_entity_append he)
    · rw [heq, List.singleton_append]
      intro h
      rcases h.of_cons with h | ⟨hamp, -⟩
      · exact ih h
      · exact hc hamp

/-- An entity that begins a text and another stands in the text, or it goes over into the other. -/
theorem exists_of_prefix_append (hbegins : e.1 <+: c :: (s ++ t)) (hnot : ¬ e.1 <+: c :: s) :
    ∃ b t', e.1 = (c :: s) ++ b ∧ b ≠ [] ∧ t = b ++ t' := by
  obtain ⟨rest, hrest⟩ := hbegins
  rw [← List.cons_append] at hrest
  rcases List.append_eq_append_iff.mp hrest with ⟨x, hx, -⟩ | ⟨b, hb, ht⟩
  · exact absurd ⟨x, hx.symm⟩ hnot
  · refine ⟨b, rest, hb, ?_, ht⟩
    rintro rfl
    rw [List.append_nil] at hb
    exact hnot (hb ▸ List.prefix_refl _)

/-- Texts that do not meet are unescaped one by one. -/
theorem unescapeChars_append (h : ¬ Meets s t) : unescapeChars (s ++ t) = unescapeChars s ++ unescapeChars t := by
  induction s using entity_induction with
  | nil => rfl
  | entity e he s ih =>
    rw [List.append_assoc, unescapeChars_entity he, unescapeChars_entity he, ih fun hs => h (hs.append_left e.1)]
    rfl
  | other c s hnone ih =>
    have hnone' : ∀ e ∈ entities, ¬ e.1 <+: c :: (s ++ t) := by
      intro e he hbegins
      obtain ⟨b, t', heq, hb, ht⟩ := exists_of_prefix_append hbegins (hnone e he)
      exact h ⟨e, he, c :: s, b, heq, List.cons_ne_nil c s, hb, List.suffix_refl _, ht ▸ List.prefix_append b t'⟩
    rw [List.cons_append, unescapeChars_cons hnone', unescapeChars_cons hnone,
      ih fun hs => h (hs.append_left [c])]
    rfl

/-- Where texts meet, less is made of them. -/
theorem length_unescapeChars_lt (h : Meets s t) :
    (unescapeChars (s ++ t)).length < (unescapeChars s).length + (unescapeChars t).length := by
  induction s using entity_induction with
  | nil => exact absurd h (not_meets_nil t)
  | entity e he s ih =>
    have hrest := ih (h.of_entity_append he)
    rw [List.append_assoc, unescapeChars_entity he, unescapeChars_entity he, List.length_cons, List.length_cons]
    omega
  | other c s hnone ih =>
    by_cases hgoes : ∃ e ∈ entities, e.1 <+: c :: (s ++ t)
    · -- The entity becomes one character, and each of its two parts made one at least.
      obtain ⟨e, he, hbegins⟩ := hgoes
      obtain ⟨b, t', heq, hb, rfl⟩ := exists_of_prefix_append hbegins (hnone e he)
      obtain ⟨-, -, hamp⟩ := entity_split he heq (List.cons_ne_nil c s) hb
      have hpos : 0 < b.length := List.length_pos_iff.mpr hb
      rw [← List.append_assoc, ← heq, unescapeChars_entity he, unescapeChars_cons hnone,
        unescapeChars_append_of_not_mem hamp, List.length_append, List.length_cons, List.length_cons]
      omega
    · have hnone' : ∀ e ∈ entities, ¬ e.1 <+: c :: (s ++ t) := fun e he hbegins => hgoes ⟨e, he, hbegins⟩
      have hrest := ih (h.of_cons.resolve_right fun ⟨_, he⟩ => hgoes he)
      rw [List.cons_append, unescapeChars_cons hnone', unescapeChars_cons hnone, List.length_cons, List.length_cons]
      omega

theorem length_unescapeChars_append_le (s t : List Char) :
    (unescapeChars (s ++ t)).length ≤ (unescapeChars s).length + (unescapeChars t).length := by
  by_cases h : Meets s t
  · exact (length_unescapeChars_lt h).le
  · rw [unescapeChars_append h, List.length_append]

/-! ## 3. Texts in a row

By induction on the texts, with lengths to rule out that two differences cancel each other. -/

/-- An entity begins in some of the texts and ends in those after them. -/
def Across (texts : List (List Char)) : Prop :=
  ∃ before after, texts = before ++ after ∧ Meets before.flatten after.flatten

theorem across_cons {texts : List (List Char)} : Across (s :: texts) ↔ Meets s texts.flatten ∨ Across texts := by
  constructor
  · rintro ⟨before, after, heq, h⟩
    cases before with
    | nil => exact absurd h (not_meets_nil _)
    | cons s' before =>
      obtain ⟨rfl, rfl⟩ := List.cons.inj heq
      obtain ⟨e, he, a, b, hab, ha, hb, hsuffix, hbegins⟩ := h
      rw [List.flatten_cons] at hsuffix
      rcases suffix_append_cases hsuffix with hlater | ⟨a', ha', rfl, hback⟩
      · exact .inr ⟨before, after, rfl, e, he, a, b, hab, ha, hb, hlater, hbegins⟩
      · rw [List.append_assoc] at hab
        have hnext : before.flatten ++ b <+: (before ++ after).flatten := by
          rw [List.flatten_append]
          exact (List.prefix_append_right_inj _).mpr hbegins
        exact .inl ⟨e, he, a', before.flatten ++ b, hab, ha', by simp [hb], hback, hnext⟩
  · rintro (h | ⟨before, after, rfl, h⟩)
    · exact ⟨[s], texts, rfl, by simpa using h⟩
    · exact ⟨s :: before, after, rfl, h.append_left s⟩

theorem not_across_nil : ¬ Across [] := by
  rintro ⟨before, after, heq, h⟩
  obtain ⟨rfl, -⟩ := List.append_eq_nil_iff.mp heq.symm
  exact not_meets_nil _ h

theorem length_unescapeChars_flatten (texts : List (List Char)) :
    (unescapeChars texts.flatten).length ≤ (texts.map unescapeChars).flatten.length ∧
      (Across texts → (unescapeChars texts.flatten).length < (texts.map unescapeChars).flatten.length) := by
  induction texts with
  | nil => exact ⟨le_refl _, fun h => absurd h not_across_nil⟩
  | cons s texts ih =>
    obtain ⟨hle, hlt⟩ := ih
    have happend := length_unescapeChars_append_le s texts.flatten
    rw [List.flatten_cons, List.map_cons, List.flatten_cons, List.length_append]
    refine ⟨by omega, fun h => ?_⟩
    rcases across_cons.mp h with h | h
    · have hmeets := length_unescapeChars_lt h
      omega
    · have hrest := hlt h
      omega

/-- **Texts in a row are unescaped one by one exactly if no entity goes across a border.** -/
theorem unescapeChars_flatten_iff (texts : List (List Char)) :
    unescapeChars texts.flatten = (texts.map unescapeChars).flatten ↔ ¬ Across texts := by
  constructor
  · intro heq h
    have hlt := (length_unescapeChars_flatten texts).2 h
    rw [heq] at hlt
    exact absurd hlt (lt_irrefl _)
  · intro h
    induction texts with
    | nil => rfl
    | cons s texts ih =>
      rw [across_cons, not_or] at h
      rw [List.flatten_cons, List.map_cons, List.flatten_cons, unescapeChars_append h.1, ih h.2]

end Regraft.Text
