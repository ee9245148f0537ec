import Regraft.Descent
import Regraft.Proofs.Characters
import Regraft.Proofs.Placing
import Regraft.Proofs.Success
/-!
# What a template renders

The characters of a rendered text come from the template or from the values, and the values are escaped.  So
a template without an opening bracket renders texts without one (`not_mem_of_renderRow`), and these are never
read as markup: all that can become of them is that they begin a content (`place_of_no_bracket`).
-/

namespace Regraft

/-! ## 1. Templates

Every character of a rendered text is one of a literal or of an escaped value.  Brackets are in no escaped value, so
they are in a rendered text only if they are in the template. -/

namespace Template

/-- The characters of a filled template are of its literals or of the values. -/
theorem mem_fill {c : Char} {segments : List Segment} {values : List String}
    (h : c ∈ (fill segments values).toList) :
    (∃ text, .literal text ∈ segments ∧ c ∈ text.toList) ∨ ∃ value ∈ values, c ∈ value.toList := by
  induction segments generalizing values with
  | nil => simp [fill] at h
  | cons segment rest ih =>
    cases segment with
    | literal text =>
      rw [fill, String.toList_append, List.mem_append] at h
      rcases h with h | h
      · exact .inl ⟨text, List.mem_cons_self, h⟩
      · rcases ih h with ⟨t, ht, hc⟩ | hvalue
        · exact .inl ⟨t, List.mem_cons_of_mem _ ht, hc⟩
        · exact .inr hvalue
    | slot =>
      cases values with
      | nil =>
        rw [fill] at h
        rcases ih h with ⟨t, ht, hc⟩ | hvalue
        · exact .inl ⟨t, List.mem_cons_of_mem _ ht, hc⟩
        · exact .inr hvalue
      | cons value values =>
        rw [fill, String.toList_append, List.mem_append] at h
        rcases h with h | h
        · exact .inr ⟨value, List.mem_cons_self, h⟩
        · rcases ih h with ⟨t, ht, hc⟩ | ⟨v, hv, hc⟩
          · exact .inl ⟨t, List.mem_cons_of_mem _ ht, hc⟩
          · exact .inr ⟨v, List.mem_cons_of_mem _ hv, hc⟩

theorem mem_literalOf {text : String} {reversed : List Char} {c : Char}
    (h : .literal text ∈ literalOf reversed) (hc : c ∈ text.toList) : c ∈ reversed := by
  unfold literalOf at h
  split at h
  · cases h
  · cases List.mem_singleton.mp h
    simpa using hc

/-- The characters of the literals that a text is divided into are characters of the text. -/
theorem mem_segmentsFrom {text : String} {c : Char} {reversed s : List Char}
    (h : .literal text ∈ segmentsFrom reversed s) (hc : c ∈ text.toList) : c ∈ reversed ∨ c ∈ s := by
  fun_induction segmentsFrom reversed s with
  | case1 reversed => exact .inl (mem_literalOf h hc)
  | case2 reversed rest ih =>
    rcases List.mem_append.mp h with h | h
    · exact .inl (mem_literalOf h hc)
    · rcases List.mem_cons.mp h with h | h
      · cases h
      · rcases ih h with h | h
        · cases h
        · simp [h]
  | case3 reversed rest ih =>
    rcases ih h with h | h
    · rcases List.mem_cons.mp h with h | h
      · simp [h]
      · exact .inl h
    · simp [h]
  | case4 reversed a rest _ _ ih =>
    rcases ih h with h | h
    · rcases List.mem_cons.mp h with h | h
      · simp [h]
      · exact .inl h
    · simp [h]

/-- What the template makes of escaped values has an opening bracket only if the template has one. -/
theorem not_mem_render {text : String} (htext : '<' ∉ text.toList) {values : List String} {rendered : String}
    (h : (parse text).render (values.map Text.escape) = .ok rendered) : '<' ∉ rendered.toList := by
  unfold render at h
  split at h
  · cases h
    intro hmem
    rcases mem_fill hmem with ⟨t, ht, hc⟩ | ⟨v, hv, hc⟩
    · rcases mem_segmentsFrom ht hc with h | h
      · cases h
      · exact htext h
    · obtain ⟨w, -, rfl⟩ := List.mem_map.mp hv
      rw [Text.escape, String.toList_ofList] at hc
      exact Text.not_mem_escapeChars _ hc
  · cases h

end Template

/-- A row that is not filtered out is rendered as the template renders its values. -/
theorem Descent.renderRow_of_values {d : Descent} {row : List String} {normalized : List (Option String)}
    {values : List String} (hnormalized : d.rule.normalization.apply row = .ok normalized)
    (hvalues : normalized.mapM id = some values) :
    d.renderRow row = (d.rule.template.render (values.map Text.escape)).map some := by
  rw [renderRow, hnormalized]
  dsimp only [bind, Except.bind]
  rw [hvalues]
  rfl

/-- A row is rendered where it is normalized to values that fill the template. -/
theorem Descent.renderRow_eq_some {d : Descent} {row : List String} {rendered : String} :
    d.renderRow row = .ok (some rendered) ↔ ∃ normalized values, d.rule.normalization.apply row = .ok normalized ∧
      normalized.mapM id = some values ∧ d.rule.template.render (values.map Text.escape) = .ok rendered := by
  constructor
  · intro h
    obtain ⟨normalized, hnormalized, hrest⟩ := bind_ok.mp h
    cases hvalues : normalized.mapM id with
    | none =>
      rw [hvalues] at hrest
      cases hrest
    | some values =>
      rw [renderRow_of_values hnormalized hvalues] at h
      obtain ⟨text, htext, ⟨⟩⟩ := map_ok.mp h
      exact ⟨normalized, values, hnormalized, hvalues, htext⟩
  · rintro ⟨normalized, values, hnormalized, hvalues, htext⟩
    rw [renderRow_of_values hnormalized hvalues, htext]
    rfl

theorem Descent.not_mem_of_renderRow {d : Descent} {text : String} (htemplate : d.rule.template = .parse text)
    (htext : '<' ∉ text.toList) {row : List String} {rendered : String}
    (h : d.renderRow row = .ok (some rendered)) : '<' ∉ rendered.toList := by
  obtain ⟨-, values, -, -, hrender⟩ := renderRow_eq_some.mp h
  rw [htemplate] at hrender
  exact Template.not_mem_render htext hrender

/-! ## 2. Placing

A text without a bracket does not begin with one. -/

namespace Fragment

theorem isMarkup_of_not_mem {text : String} (h : '<' ∉ text.toList) : isMarkup text = false := by
  refine decide_eq_false fun hhead => h ?_
  exact (List.dropWhile_sublist _).mem (List.mem_of_head? hhead)

/-- A text without an opening bracket is placed as the text that begins a content, or not at all. -/
theorem place_of_no_bracket (r : Root) {text : String} (h : '<' ∉ text.toList) :
    (∀ c, place r text c = .ok c) ∨
      ∃ value, value.isEmpty = false ∧ ∀ c, place r text c = .ok (Xml.setLeadingText value c) := by
  have hmarkup := isMarkup_of_not_mem h
  cases hempty : text.isEmpty with
  | true => exact .inl fun c => place_empty hmarkup hempty c
  | false => exact .inr ⟨_, Text.unescape_ne_empty hempty, fun c => place_text hmarkup hempty c⟩

end Fragment

end Regraft
