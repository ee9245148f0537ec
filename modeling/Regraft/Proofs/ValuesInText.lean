import Mathlib.Data.List.Infix
import Regraft.Proofs.Calls
import Regraft.Proofs.Entities
import Regraft.Proofs.TextSlots
/-!
# Values placed as text

A row that is placed as text is escaped value by value, but unescaped as a whole.  Where a value stands beside a part
of the template, an entity can come about that is in neither, and then the value is not stored as it is: `&%s` makes `<`
of the value `lt;`.  `Descent.values_in_text` says that nothing else can happen to a value, and which templates keep
every value: those that leave no entity open where a slot comes (`Text.leavesOpen`).
-/

namespace Regraft

open Xml (Node)

/-- The members of two lists in turn, the first of the first list before all others. -/
def alternate {α : Type} : List α → List α → List α
  | a :: as, b :: bs => a :: b :: alternate as bs
  | as, [] => as
  | [], bs => bs

theorem map_alternate {α β : Type} (f : α → β) (as bs : List α) :
    (alternate as bs).map f = alternate (as.map f) (bs.map f) := by
  fun_induction alternate as bs with
  | case1 a as b bs ih => simp only [List.map_cons, alternate, ih]
  | case2 as => cases as <;> rfl
  | case3 bs _ => cases bs <;> rfl

/-! ## 1. The parts of a template

The literal parts of a template, of which there is one more than there are slots; two slots side by side have an empty
part between them. -/

namespace Template

/-- The literal parts of segments, divided by the slots; `gathered` is what comes before the segments. -/
def partsFrom (gathered : String) : List Segment → List String
  | [] => [gathered]
  | .literal text :: rest => partsFrom (gathered ++ text) rest
  | .slot :: rest => gathered :: partsFrom "" rest

/-- The literal parts of a template, one more than it has slots. -/
def parts (t : Template) : List String := partsFrom "" t.segments

/-- The parts of a template and the escaped values in turn. -/
def pieces (t : Template) (values : List String) : List String := alternate t.parts (values.map Text.escape)

theorem length_partsFrom (gathered : String) (segments : List Segment) :
    (partsFrom gathered segments).length = segments.count .slot + 1 := by
  induction segments generalizing gathered with
  | nil => rfl
  | cons segment rest ih =>
    cases segment with
    | literal text => simp [partsFrom, ih]
    | slot => simp [partsFrom, ih]

theorem length_parts (t : Template) : t.parts.length = t.slots + 1 := length_partsFrom "" t.segments

theorem join_alternate_partsFrom (gathered : String) {segments : List Segment} {values : List String}
    (hcount : values.length = segments.count .slot) :
    String.join (alternate (partsFrom gathered segments) values) = gathered ++ fill segments values := by
  induction segments generalizing gathered values with
  | nil =>
    obtain rfl := List.eq_nil_of_length_eq_zero hcount
    simp [partsFrom, alternate, fill]
  | cons segment rest ih =>
    cases segment with
    | literal text =>
      rw [partsFrom, ih _ (by simpa using hcount), fill, String.append_assoc]
    | slot =>
      cases values with
      | nil => simp at hcount
      | cons value values =>
        rw [partsFrom, alternate, String.join_cons, String.join_cons, ih _ (by simpa using hcount), fill,
          String.empty_append]

/-- A filled template is its pieces one after the other. -/
theorem join_pieces {t : Template} {values : List String} {rendered : String}
    (h : t.render (values.map Text.escape) = .ok rendered) : rendered = String.join (t.pieces values) := by
  unfold render at h
  split at h
  · rename_i hcount
    cases h
    rw [pieces, parts, join_alternate_partsFrom "" hcount, String.empty_append]
  · cases h

end Template

/-! ## 2. Open entities

An entity is open at the end of a part if the part ends with a beginning of one.  A value that goes on with the rest of
it is not kept. -/

namespace Text

/-- A text ends in the beginning of an entity. -/
def leavesOpen (s : String) : Bool :=
  entities.any fun e => e.1.dropLast.inits.any fun a => !a.isEmpty && a.isSuffixOf s.toList

theorem leavesOpen_iff {s : String} : leavesOpen s = true ↔ ∃ t, Meets s.toList t := by
  simp only [leavesOpen, List.any_eq_true, List.mem_inits, Bool.and_eq_true, Bool.not_eq_true',
    List.isEmpty_eq_false_iff, List.isSuffixOf_iff_suffix]
  constructor
  · rintro ⟨e, he, a, ⟨rest, hrest⟩, ha, hsuffix⟩
    obtain ⟨name, hname, -, -⟩ := entity_eq he
    have hne : e.1 ≠ [] := by
      rw [hname]
      exact List.cons_ne_nil _ _
    have heq : e.1 = a ++ (rest ++ [e.1.getLast hne]) := by
      rw [← List.append_assoc, hrest, List.dropLast_append_getLast]
    exact ⟨rest ++ [e.1.getLast hne], e, he, a, _, heq, ha, by simp, hsuffix, List.prefix_refl _⟩
  · rintro ⟨t, e, he, a, b, heq, ha, hb, hsuffix, -⟩
    refine ⟨e, he, a, ?_, ha, hsuffix⟩
    rw [heq, List.dropLast_append_of_ne_nil hb]
    exact List.prefix_append a _

theorem not_meets_of_not_leavesOpen {s : String} (h : leavesOpen s = false) (t : List Char) : ¬ Meets s.toList t := by
  intro hmeets
  rw [leavesOpen_iff.mpr ⟨t, hmeets⟩] at h
  cases h

/-- The rest of an entity is itself where it is escaped. -/
theorem escapeChars_of_rest {e : List Char × Char} (he : e ∈ entities) {a b : List Char} (heq : e.1 = a ++ b)
    (ha : a ≠ []) (hb : b ≠ []) : escapeChars b = b := by
  obtain ⟨-, -, hamp⟩ := entity_split he heq ha hb
  have hbrackets : '<' ∉ e.1 ∧ '>' ∉ e.1 := by
    simp only [entities, List.mem_cons, List.not_mem_nil, or_false] at he
    rcases he with rfl | rfl | rfl
    · decide
    · decide
    · decide
  have hb' : b ⊆ e.1 := heq ▸ List.subset_append_right a b
  rw [escapeChars, replaceAll_of_not_mem hamp, replaceAll_of_not_mem fun h => hbrackets.1 (hb' h),
    replaceAll_of_not_mem fun h => hbrackets.2 (hb' h)]

/-- Between parts that leave no entity open, the last apart, and escaped values none comes about. -/
theorem not_across_alternate {parts values : List String} (hlength : parts.length = values.length + 1)
    (h : ∀ part ∈ parts.dropLast, leavesOpen part = false) :
    ¬ Across ((alternate parts (values.map escape)).map String.toList) := by
  induction values generalizing parts with
  | nil =>
    obtain ⟨part, rfl⟩ := List.length_eq_one_iff.mp hlength
    rw [List.map_nil, alternate, List.map_cons, List.map_nil, across_cons, List.flatten_nil]
    rintro (⟨e, -, a, b, -, -, hb, -, hbegins⟩ | hacross)
    · exact hb (List.prefix_nil.mp hbegins)
    · exact not_across_nil hacross
  | cons value values ih =>
    obtain ⟨part, parts, rfl⟩ := List.exists_cons_of_length_eq_add_one hlength
    have hrest : parts.length = values.length + 1 := Nat.succ.inj hlength
    have hne : parts ≠ [] := by
      rintro rfl
      cases hrest
    rw [List.dropLast_cons_of_ne_nil hne, List.forall_mem_cons] at h
    rw [List.map_cons, alternate, List.map_cons, List.map_cons, across_cons, across_cons, escape,
      String.toList_ofList]
    rintro (hmeets | hmeets | hacross)
    · exact not_meets_of_not_leavesOpen h.1 _ hmeets
    · exact not_meets_escapeChars _ _ hmeets
    · exact ih hrest h.2 hacross

/-- After a part that leaves an entity open, some value closes it. -/
theorem exists_across_alternate {parts : List String} {part : String} (hpart : part ∈ parts.dropLast)
    (h : leavesOpen part = true) :
    ∃ values : List String, parts.length = values.length + 1 ∧
      Across ((alternate parts (values.map escape)).map String.toList) := by
  induction parts with
  | nil => cases hpart
  | cons first parts ih =>
    have hne : parts ≠ [] := by
      rintro rfl
      cases hpart
    rw [List.dropLast_cons_of_ne_nil hne] at hpart
    rcases List.mem_cons.mp hpart with rfl | hpart
    · obtain ⟨t, e, he, a, b, heq, ha, hb, hsuffix, -⟩ := leavesOpen_iff.mp h
      have hpos : 0 < parts.length := List.length_pos_iff.mpr hne
      refine ⟨.ofList b :: List.replicate (parts.length - 1) "", by simp; omega, ?_⟩
      rw [List.map_cons, alternate, List.map_cons, List.map_cons, across_cons, List.flatten_cons, escape,
        String.toList_ofList, String.toList_ofList, escapeChars_of_rest he heq ha hb]
      exact .inl ⟨e, he, a, b, heq, ha, hb, hsuffix, List.prefix_append b _⟩
    · obtain ⟨values, hlength, hacross⟩ := ih hpart
      refine ⟨"" :: values, by simp [hlength], ?_⟩
      rw [List.map_cons, alternate, List.map_cons, List.map_cons, across_cons, across_cons]
      exact .inr (.inr hacross)

end Text

/-! ## 3. Rows placed as text

The texts in a row are the parts and the escaped values in turn.  Unescaped as a whole they come to what they come to
one by one if and only if no entity goes across. -/

/-- Pieces that are unescaped one by one are the unescaped parts and the values. -/
theorem Template.unescape_pieces (t : Template) (values : List String) :
    (t.pieces values).map Text.unescape = alternate (t.parts.map Text.unescape) values := by
  have hvalues : (values.map Text.escape).map Text.unescape = values := by
    rw [List.map_map]
    refine (List.map_congr_left fun value _ => ?_).trans (List.map_id values)
    simp [Text.unescape, Text.escape, Text.unescapeChars_escapeChars]
  rw [pieces, map_alternate, hvalues]

theorem Text.unescape_join_iff (texts : List String) :
    unescape (String.join texts) = String.join (texts.map unescape) ↔ ¬ Across (texts.map String.toList) := by
  have hunescaped : (texts.map unescape).map String.toList = (texts.map String.toList).map unescapeChars := by
    simp [unescape]
  rw [← unescapeChars_flatten_iff, ← hunescaped, ← String.toList_inj, unescape, String.toList_ofList,
    String.toList_join, String.toList_join, List.flatMap_def, List.flatMap_def]

theorem mapM_map_some {α : Type} (values : List α) : (values.map some).mapM id = some values := by
  induction values with
  | nil => rfl
  | cons value values ih =>
    rw [List.map_cons, List.mapM_cons, ih]
    rfl

namespace Descent

/-- **A row that is placed as text is stored as the unescaped parts of the template and the values as they are in turn,
exactly if no entity goes across a border between them.**  No values make one exactly if no part before a slot leaves an
entity open.  The content is one in which texts stand apart, as in all that a run builds (`Run.apart_after`). -/
theorem values_in_text {d : Descent} {row values : List String} {rendered : String}
    (hnormalized : d.rule.normalization.apply row = .ok (values.map some))
    (hrendered : d.rule.template.render (values.map Text.escape) = .ok rendered)
    (htext : Fragment.isMarkup rendered = false) (hne : rendered ≠ "") {c : List Node} (hc : Xml.TextsApart c) :
    (d.placeRow row c).fault = none ∧
    (Node.leadingText (d.placeRow row c).content =
        some (String.join (alternate (d.rule.template.parts.map Text.unescape) values)) ↔
      ¬ Text.Across ((d.rule.template.pieces values).map String.toList)) ∧
    ((∀ part ∈ d.rule.template.parts.dropLast, Text.leavesOpen part = false) ↔
      ∀ others : List String, others.length = d.rule.template.slots →
        ¬ Text.Across ((d.rule.template.pieces others).map String.toList)) := by
  have hjoin := Template.join_pieces hrendered
  have hempty : rendered.isEmpty = false := by simpa using hne
  have hplaced : d.placeRow row c = ⟨Xml.setLeadingText (Text.unescape rendered) c, none⟩ := by
    rw [placeRow_eq hnormalized (mapM_map_some values), Edit.whole, Template.place, hrendered, Except.bind,
      Fragment.place_text htext hempty]
  have hleading : Node.leadingText (d.placeRow row c).content = some (Text.unescape rendered) := by
    rw [hplaced, Xml.leadingText_setLeadingText hc, if_neg (by simp [Text.unescape_ne_empty hempty])]
  refine ⟨by rw [hplaced], ?_, fun h others hcount => ?_, fun h part hpart => ?_⟩
  · rw [hleading, Option.some_inj, hjoin, ← Template.unescape_pieces, Text.unescape_join_iff]
  · exact Text.not_across_alternate (by rw [Template.length_parts, hcount]) h
  · by_contra hopen
    obtain ⟨others, hlength, hacross⟩ := Text.exists_across_alternate hpart (Bool.not_eq_false _ ▸ hopen)
    rw [Template.length_parts] at hlength
    exact h others (by omega) hacross

end Descent

namespace Sample

/-- The descent from `b` to `p` with a template. -/
def placing (template : String) : Descent :=
  (run []).descent { rule [⟨none, "p"⟩] [⟨none, "b"⟩] with template := .parse template }

end Sample

namespace Descent

/-- An entity of the template is unescaped, and the value `&` is no entity with what comes after it. -/
theorem ampersand_kept :
    (Sample.placing "&lt;%slt;").rule.template.parts = ["&lt;", "lt;"] ∧
      (Sample.placing "&lt;%slt;").rule.template.render (["&"].map Text.escape) = .ok "&lt;&amp;lt;" ∧
      Node.leadingText ((Sample.placing "&lt;%slt;").placeRow ["&"] [.text "old"]).content = some "<&lt;" := by
  have hnormalized : (Sample.placing "&lt;%slt;").rule.normalization.apply ["&"] = .ok (["&"].map some) := rfl
  have hrendered : (Sample.placing "&lt;%slt;").rule.template.render (["&"].map Text.escape) =
      .ok "&lt;&amp;lt;" := by decide
  have hapart : Xml.TextsApart [.text "old"] := by decide
  obtain ⟨-, hstored, hclosed⟩ := values_in_text hnormalized hrendered (by decide) (by decide) hapart
  have hverbatim : String.join
      (alternate ((Sample.placing "&lt;%slt;").rule.template.parts.map Text.unescape) ["&"]) = "<&lt;" := by decide
  rw [hverbatim] at hstored
  exact ⟨by decide, hrendered, hstored.mpr (hclosed.mp (by decide) ["&"] (by decide))⟩

/-- **An ampersand of the template makes a bracket of the value `lt;`**, which is not stored as it is. -/
theorem entity_comes_about :
    (Sample.placing "&%s").rule.template.parts = ["&", ""] ∧
      (Sample.placing "&%s").rule.normalization.apply ["lt;"] = .ok (["lt;"].map some) ∧
      (Sample.placing "&%s").rule.template.render (["lt;"].map Text.escape) = .ok "&lt;" ∧
      Fragment.isMarkup "&lt;" = false ∧
      ((Sample.placing "&%s").placeRow ["lt;"] []).fault = none ∧
      Node.leadingText ((Sample.placing "&%s").placeRow ["lt;"] []).content = some "<" ∧
      String.join (alternate ((Sample.placing "&%s").rule.template.parts.map Text.unescape) ["lt;"]) = "&lt;" := by
  refine ⟨by decide, rfl, by decide, by decide, ?_, ?_, by decide⟩
  · rfl
  · rfl

end Descent

/-! ## Summary

**What is established.**  For any row: the text that is placed is made of the parts and the values exactly if no entity
goes from one of them into the next.  And the templates for which that holds of every row are those that leave no entity
open before a slot.

**What is not.**  The values are as they are after normalization, and the rendered text is assumed to be placed as text;
fragments are read by other rules. -/

end Regraft
