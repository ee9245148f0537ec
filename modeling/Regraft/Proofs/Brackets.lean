import Regraft.Proofs.Growth
import Regraft.Proofs.ValuesInText
/-!
# Brackets come from the template

What tells markup from text is a bracket.  Escaped values have none, so the brackets of what a template renders are
those of its literal parts, in their order and whatever the values are (`Template.brackets_fill`).

Whether a rendered text is placed as a fragment or as a text is decided by the bracket that it begins with.  So a
template without an opening bracket never places a fragment, and one that begins with it never places a text.  What
that means for a document is said by `Composed`: the contents that come of another when empty elements are added,
writings of one kind are made, and this goes on in the elements.  For a rule of either sort, the content that it
leaves is composed with writings of one kind alone (`brackets_from_template`).
-/

namespace Regraft

open Xml (Node QName Tag)

/-! ## 1. Brackets of texts

The brackets of a text in their order.  Escaping leaves none in a value. -/

namespace Text

/-- The angle brackets of a text, in their order. -/
def brackets (s : String) : List Char := s.toList.filter fun c => c == '<' || c == '>'

theorem brackets_append (s t : String) : brackets (s ++ t) = brackets s ++ brackets t := by
  rw [brackets, String.toList_append, List.filter_append, brackets, brackets]

theorem brackets_escape (s : String) : brackets (escape s) = [] := by
  refine List.filter_eq_nil_iff.mpr fun c hc hbracket => ?_
  rw [escape, String.toList_ofList] at hc
  rcases (by simpa using hbracket : c = '<' ∨ c = '>') with rfl | rfl
  · exact not_mem_escapeChars _ hc
  · exact greater_not_mem_escapeChars _ hc

theorem mem_brackets {s : String} : '<' ∈ brackets s ↔ '<' ∈ s.toList := by
  simp [brackets]

end Text

namespace Template

open Text (brackets brackets_append brackets_escape)

/-- Values have no part in the brackets of a filled template. -/
theorem brackets_fill (segments : List Segment) (values : List String) :
    brackets (fill segments (values.map Text.escape)) = brackets (fill segments []) := by
  induction segments generalizing values with
  | nil => rfl
  | cons segment rest ih =>
    cases segment with
    | literal text => rw [fill, fill, brackets_append, brackets_append, ih]
    | slot =>
      cases values with
      | nil => rfl
      | cons value values => rw [List.map_cons, fill, fill, brackets_append, brackets_escape, ih, List.nil_append]

theorem join_partsFrom (gathered : String) (segments : List Segment) :
    String.join (partsFrom gathered segments) = gathered ++ fill segments [] := by
  induction segments generalizing gathered with
  | nil => simp [partsFrom, fill]
  | cons segment rest ih =>
    cases segment with
    | literal text => rw [partsFrom, ih, fill, String.append_assoc]
    | slot => rw [partsFrom, String.join_cons, ih, String.empty_append, fill]

theorem fill_literalOf (reversed : List Char) (segments : List Segment) :
    fill (literalOf reversed ++ segments) [] = .ofList reversed.reverse ++ fill segments [] := by
  rw [literalOf]
  split
  · rename_i hempty
    rw [List.isEmpty_iff.mp hempty]
    simp
  · rfl

/-- No bracket is lost where slots and doubled percent signs are read. -/
theorem brackets_segmentsFrom (reversed s : List Char) :
    brackets (fill (segmentsFrom reversed s) []) = brackets (.ofList (reversed.reverse ++ s)) := by
  fun_induction segmentsFrom reversed s with
  | case1 reversed =>
    have hliteral := fill_literalOf reversed []
    rw [List.append_nil] at hliteral
    simp [hliteral, fill]
  | case2 reversed rest ih =>
    rw [fill_literalOf, fill, brackets_append, ih]
    simp [brackets]
  | case3 reversed rest ih =>
    rw [ih]
    simp [brackets]
  | case4 reversed c rest _ _ ih =>
    rw [ih]
    simp [brackets]

/-- The brackets of what is rendered are those of the text that the template was read from. -/
theorem brackets_render {raw rendered : String} {values : List String}
    (h : (parse raw).render (values.map Text.escape) = .ok rendered) : brackets rendered = brackets raw := by
  unfold render at h
  split at h
  · cases h
    rw [brackets_fill, parse, brackets_segmentsFrom]
    simp
  · cases h

theorem brackets_parts (raw : String) : brackets (String.join (parse raw).parts) = brackets raw := by
  rw [parts, join_partsFrom, String.empty_append, parse, brackets_segmentsFrom]
  simp

end Template

/-! ## 2. Contents composed with writings of one kind

`Composed` is said of two contents, as a relation that is closed under what a descent does.  So it is kept by every edit
that is made of edits that keep it, and the writings at the bottom decide which kind it is. -/

/-- The second content comes of the first by writings that `W` allows and by empty elements, in it and in its
elements. -/
inductive Composed (W : List Node → List Node → Prop) : List Node → List Node → Prop
  | refl (c : List Node) : Composed W c c
  | writing {c c' : List Node} (h : W c c') : Composed W c c'
  | element (q : QName) (c : List Node) : Composed W c (c ++ [emptyElement q])
  | inside (before after : List Node) (tag : Tag) {k k' : List Node} (h : Composed W k k') :
      Composed W (before ++ .element tag k :: after) (before ++ .element tag k' :: after)
  | trans {c c₁ c' : List Node} (h : Composed W c c₁) (h' : Composed W c₁ c') : Composed W c c'

/-- A text that is not empty is made the one that begins the content. -/
def WritesText (c c' : List Node) : Prop := ∃ value, value.isEmpty = false ∧ c' = Xml.setLeadingText value c

/-- Nodes that are read from a fragment are added at the end of the content. -/
def WritesFragment (root : Root) (c c' : List Node) : Prop :=
  ∃ text nodes, Fragment.isMarkup text = true ∧ Fragment.read root text = .ok nodes ∧ c' = Xml.appendNodes c nodes

section Composed

variable {W : List Node → List Node → Prop} {c c' : List Node}

theorem composed_padded (q : QName) (n : Nat) (c : List Node) : Composed W c (padded q n c) := by
  unfold padded
  induction n - Edit.countNamed q c generalizing c with
  | zero =>
    rw [List.replicate_zero, List.append_nil]
    exact .refl c
  | succ n ih =>
    rw [List.replicate_succ, ← List.singleton_append, ← List.append_assoc]
    exact .trans (.element q c) (ih _)

/-- Elements of a name that are composed make the content composed.  What stands before them is taken along in the
induction, since writings concern the whole content. -/
theorem composed_of_eachNamed {q : QName} {R : Nat → List Node → List Node → Prop} (h : EachNamed q R c c')
    (hR : ∀ i k k', R i k k' → Composed W k k') (before : List Node) : Composed W (before ++ c) (before ++ c') := by
  induction h generalizing before with
  | nil => exact .refl _
  | @named R tag k k' c c' _ hk _ ih =>
    have hrest := ih (fun i => hR (i + 1)) (before ++ [.element tag k'])
    rw [List.append_assoc, List.append_assoc] at hrest
    exact .trans (.inside before c tag (hR 0 k k' hk)) hrest
  | @other R n c c' _ _ ih =>
    have hrest := ih hR (before ++ [n])
    rw [List.append_assoc, List.append_assoc] at hrest
    exact hrest

end Composed

namespace Edit

/-- Whatever comes of the edit, the content is composed. -/
def Composes (W : List Node → List Node → Prop) (f : Edit) : Prop := ∀ c, Composed W c (f c).content

variable {W : List Node → List Node → Prop}

theorem composes_pad (q : QName) (n : Nat) : Composes W (pad q n) := fun c => by
  rw [pad_eq]
  exact composed_padded q n c

theorem composes_eachNamed {q : QName} {fs : List Edit} (hfs : ∀ f ∈ fs, Composes W f) :
    Composes W (eachNamed q fs) := by
  intro c
  refine composed_of_eachNamed (eachNamed_changes fs c) ?_ []
  rintro - k k' (rfl | ⟨f, hf, rfl⟩)
  · exact .refl _
  · exact hfs f hf k

theorem composes_preserved : Preserved anyName (Composes W) :=
  preserved_relates Composed.refl Composed.trans (fun _ => composes_pad _) composes_eachNamed

theorem composes_text (root : Root) {text : String} (h : Fragment.isMarkup text = false) :
    Composes WritesText (.whole (Fragment.place root text)) := by
  intro c
  unfold whole
  cases hempty : text.isEmpty with
  | true =>
    rw [Fragment.place_empty h hempty]
    exact .refl c
  | false =>
    rw [Fragment.place_text h hempty]
    exact .writing ⟨_, Text.unescape_ne_empty hempty, rfl⟩

theorem composes_fragment (root : Root) {text : String} (h : Fragment.isMarkup text = true) :
    Composes (WritesFragment root) (.whole (Fragment.place root text)) := by
  intro c
  unfold whole
  rw [Fragment.place_markup h]
  cases hread : Fragment.read root text with
  | error e => exact .refl c
  | ok nodes => exact .writing ⟨text, nodes, h, hread, rfl⟩

end Edit

/-! ## 3. Rules

Which kind is a matter of the first character of the template that is not white space, and of whether it has a bracket
at all. -/

namespace Descent

variable {d : Descent} {raw : String} (htemplate : d.rule.template = .parse raw) {context : Xml.Address} {text : String}

include htemplate

theorem brackets_of_rendersAt (h : d.RendersAt context text) : Text.brackets text = Text.brackets raw := by
  obtain ⟨rows, row, -, -, hrow⟩ := h
  obtain ⟨-, values, -, -, hrender⟩ := renderRow_eq_some.mp hrow
  rw [htemplate] at hrender
  exact Template.brackets_render hrender

theorem isMarkup_of_rendersAt (hraw : Fragment.isMarkup raw = true) (h : d.RendersAt context text) :
    Fragment.isMarkup text = true := by
  obtain ⟨rows, row, -, -, hrow⟩ := h
  obtain ⟨-, values, -, -, hrender⟩ := renderRow_eq_some.mp hrow
  rw [htemplate, Template.render] at hrender
  split at hrender
  · cases hrender
    exact Template.isMarkup_fill hraw _
  · cases hrender

theorem not_isMarkup_of_rendersAt (hraw : '<' ∉ raw.toList) (h : d.RendersAt context text) :
    Fragment.isMarkup text = false := by
  refine Fragment.isMarkup_of_not_mem fun hmem => hraw ?_
  rw [← Text.mem_brackets, ← brackets_of_rendersAt htemplate h]
  exact Text.mem_brackets.mpr hmem

end Descent

theorem Run.composed_apply (r : Run) (rule : Rule) {W : List Node → List Node → Prop}
    (hplace : ∀ context text, (r.descent rule).RendersAt context text →
      Edit.Composes W (.whole (Fragment.place r.root text))) : Composed W r.content (r.apply rule).1.content :=
  Descent.follow_of_preserved (d := r.descent rule) Edit.composes_preserved (fun _ _ _ => trivial) _ _
    (fun context text _ h => hplace context text h) r.content

/-- **Values supply no brackets.**  Two rows of values that fill a template have the same brackets made of them,
those of its literal parts.  So a rule has the same brackets wherever and whatever it renders.  If its template has
no opening bracket, it renders no markup, and all that it does to the document is to make elements and to write
texts.  If the template begins with one, it renders nothing but markup, and all that it does is to make elements and
to add fragments. -/
theorem brackets_from_template (raw : String) :
    (∀ values others : List String, values.length = (Template.parse raw).slots →
      others.length = (Template.parse raw).slots →
      ∃ text other, (Template.parse raw).render (values.map Text.escape) = .ok text ∧
        (Template.parse raw).render (others.map Text.escape) = .ok other ∧
        Text.brackets text = Text.brackets other ∧
        Text.brackets text = Text.brackets (String.join (Template.parse raw).parts)) ∧
    ∀ (r : Run) (rule : Rule), rule.template = .parse raw →
      (∀ context text, (r.descent rule).RendersAt context text → Text.brackets text = Text.brackets raw) ∧
      ('<' ∉ raw.toList →
        (∀ context text, (r.descent rule).RendersAt context text → Fragment.isMarkup text = false) ∧
        Composed WritesText r.content (r.apply rule).1.content) ∧
      (Fragment.isMarkup raw = true →
        (∀ context text, (r.descent rule).RendersAt context text → Fragment.isMarkup text = true) ∧
        Composed (WritesFragment r.root) r.content (r.apply rule).1.content) := by
  refine ⟨fun values others hvalues hothers => ?_, fun r rule htemplate => ⟨?_, fun hraw => ?_, fun hraw => ?_⟩⟩
  · have hrender {row : List String} (hrow : row.length = (Template.parse raw).slots) :
        (Template.parse raw).render (row.map Text.escape) =
          .ok (Template.fill (Template.parse raw).segments (row.map Text.escape)) := by
      rw [Template.render, if_pos (by rw [List.length_map, hrow])]
    refine ⟨_, _, hrender hvalues, hrender hothers, ?_, ?_⟩
    · rw [Template.brackets_fill, Template.brackets_fill]
    · rw [Template.brackets_parts]
      exact Template.brackets_render (hrender hvalues)
  · exact fun context text h => Descent.brackets_of_rendersAt htemplate h
  · have hmarkup : ∀ context text, (r.descent rule).RendersAt context text → Fragment.isMarkup text = false :=
      fun context text h => Descent.not_isMarkup_of_rendersAt htemplate hraw h
    exact ⟨hmarkup, r.composed_apply rule fun context text h => Edit.composes_text r.root (hmarkup context text h)⟩
  · have hmarkup : ∀ context text, (r.descent rule).RendersAt context text → Fragment.isMarkup text = true :=
      fun context text h => Descent.isMarkup_of_rendersAt htemplate hraw h
    exact ⟨hmarkup, r.composed_apply rule fun context text h => Edit.composes_fragment r.root (hmarkup context text h)⟩

/-- A template that is markup, with a bracket and a quote for its attribute, and one with no opening bracket. -/
theorem brackets_of_rows :
    (["a<b"].length = (Template.parse " <q k=\"%s\">></q>").slots ∧
      ["\">"].length = (Template.parse " <q k=\"%s\">></q>").slots ∧
      ∃ text other, (Template.parse " <q k=\"%s\">></q>").render (["a<b"].map Text.escape) = .ok text ∧
        (Template.parse " <q k=\"%s\">></q>").render (["\">"].map Text.escape) = .ok other ∧
        Text.brackets text = Text.brackets other ∧
        Text.brackets text = Text.brackets (String.join (Template.parse " <q k=\"%s\">></q>").parts)) ∧
    (Fragment.isMarkup " <q k=\"%s\">></q>" = true ∧
      Composed (WritesFragment Sample.root) Sample.mixed.content
        (Sample.mixed.apply (Sample.placing " <q k=\"%s\">></q>").rule).1.content) ∧
    ('<' ∉ ">%s".toList ∧
      Composed WritesText Sample.mixed.content (Sample.mixed.apply (Sample.placing ">%s").rule).1.content) := by
  obtain ⟨hrows, hrules⟩ := brackets_from_template " <q k=\"%s\">></q>"
  obtain ⟨-, -, hmarkup⟩ := hrules Sample.mixed (Sample.placing " <q k=\"%s\">></q>").rule rfl
  obtain ⟨-, htext, -⟩ := (brackets_from_template ">%s").2 Sample.mixed (Sample.placing ">%s").rule rfl
  exact ⟨⟨by decide, by decide, hrows _ _ (by decide) (by decide)⟩, ⟨by decide, (hmarkup (by decide)).2⟩,
    by decide, (htext (by decide)).2⟩

/-- Where a slot stands before the first bracket, the value decides. -/
example :
    Fragment.isMarkup (Template.fill (Template.parse "%s<q/>").segments [" "]) = true ∧
      Fragment.isMarkup (Template.fill (Template.parse "%s<q/>").segments ["a"]) = false := by decide

end Regraft
