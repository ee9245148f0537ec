import Mathlib.Algebra.Order.BigOperators.Group.List
import Mathlib.Algebra.Order.Group.Nat
import Regraft.Proofs.WrittenTags
/-!
# Documents with sorted root tags

Two documents that differ in the order of the attributes on their root, and in the white space between them, should be
the same text once these are sorted.  They are if no name is taken for white space (`WrittenTag.NamesApart`), and only
then is the sorted text what it should be: the same tag with the same attributes, one space before each of them, and
everything behind the tag (`sorted_iff_namesApart`).
-/

namespace Regraft.Text

/-! ## 1. The sorted form

What a sorted text should be, said of the tag and not of the function: the parts of the tag, with the attributes in
order. -/

/-- A text that begins with a tag, one space before each attribute. -/
def layout (name : String) (attributes : List String) (isEmpty : Bool) (after : String) : String :=
  .ofList ('<' :: (name.toList ++ attributes.flatMap (fun a => ' ' :: a.toList) ++
    (if isEmpty then ['/'] else []) ++ '>' :: after.toList))

namespace WrittenTag

variable {t u : WrittenTag}

/-- The tag with its attributes in ascending order, and everything behind it. -/
def IsSortedForm (t : WrittenTag) (after s : String) : Prop :=
  ∃ attributes : List String, attributes.Perm t.texts ∧ attributes.Pairwise (· ≤ ·) ∧
    s = layout t.name attributes t.isEmpty after

/-- Tags that differ at most in the order of their attributes and in white space. -/
structure Rearranges (u t : WrittenTag) : Prop where
  name : u.name = t.name
  isEmpty : u.isEmpty = t.isEmpty
  texts : u.texts.Perm t.texts

/-- Sorting lays out what has been found in the tag. -/
theorem sortRootAttributes_document (t : WrittenTag) (after : String) :
    sortRootAttributes (t.document after) =
      layout (.ofList (TagParts.ofInside t.inside).name)
        ((TagParts.ofInside t.inside).attributes.mergeSort (· ≤ ·)) t.isEmpty after := by
  have hempty : (TagParts.ofInside t.inside).isEmpty = t.isEmpty := by rw [ofInside_inside]
  rw [sortRootAttributes, find?_document, layout, ← hempty]
  simp [TagParts.sorted]

theorem sortRootAttributes_of_name (h : spaceMark ∉ t.name.toList) (after : String) :
    sortRootAttributes (t.document after) =
      layout t.name ((t.attributes.map fun p => String.ofList p.2.taken).mergeSort (· ≤ ·)) t.isEmpty after := by
  rw [sortRootAttributes_document, ofInside_of_name h, String.ofList_toList]

/-! ## 2. One text for all arrangements

Sorting does not depend on the order that it is given, so all arrangements of the attributes and of the white space
come to one text. -/

/-- What an attribute begins with is what its name begins with. -/
theorem head?_text (a : WrittenAttribute) : a.text.toList.head? = a.name.toList.head? := by
  obtain ⟨c, rest, hname, -⟩ := Xml.exists_cons_of_isName a.isName
  simp [WrittenAttribute.text, WrittenAttribute.chars, WrittenAttribute.lead, hname]

theorem namesApart_iff : t.NamesApart ↔
    spaceMark ∉ t.name.toList ∧ ∀ text ∈ t.texts, text.toList.head? ≠ some spaceMark := by
  simp only [NamesApart, texts, List.forall_mem_map, head?_text]

theorem Rearranges.namesApart (h : u.Rearranges t) (ht : t.NamesApart) : u.NamesApart := by
  obtain ⟨hname, htexts⟩ := namesApart_iff.mp ht
  exact namesApart_iff.mpr ⟨h.name ▸ hname, fun text htext => htexts text (h.texts.mem_iff.mp htext)⟩

theorem sortRootAttributes_of_namesApart (h : t.NamesApart) (after : String) :
    sortRootAttributes (t.document after) = layout t.name (t.texts.mergeSort (· ≤ ·)) t.isEmpty after := by
  have htaken : (t.attributes.map fun p => String.ofList p.2.taken) = t.texts :=
    List.map_congr_left fun p hp => congrArg String.ofList (taken_eq (h.2 p hp))
  rw [sortRootAttributes_of_name h.1, htaken]

theorem pairwise_sorted (l : List String) : (l.mergeSort (· ≤ ·)).Pairwise (· ≤ ·) := by
  refine (List.pairwise_mergeSort (fun a b c hab hbc => ?_) (fun a b => ?_) l).imp of_decide_eq_true
  · exact decide_eq_true (String.le_trans (of_decide_eq_true hab) (of_decide_eq_true hbc))
  · simpa using String.le_total a b

/-- There is one order for all arrangements. -/
theorem Rearranges.sorted_texts (h : u.Rearranges t) : u.texts.mergeSort (· ≤ ·) = t.texts.mergeSort (· ≤ ·) := by
  have hperm : (u.texts.mergeSort (· ≤ ·)).Perm (t.texts.mergeSort (· ≤ ·)) :=
    (List.mergeSort_perm ..).trans (h.texts.trans (List.mergeSort_perm ..).symm)
  exact hperm.eq_of_pairwise (fun a b _ _ hab hba => String.le_antisymm hab hba) (pairwise_sorted _) (pairwise_sorted _)

theorem Rearranges.sortRootAttributes (h : u.Rearranges t) (ht : t.NamesApart) (after : String) :
    sortRootAttributes (u.document after) = Text.sortRootAttributes (t.document after) := by
  rw [sortRootAttributes_of_namesApart (h.namesApart ht), sortRootAttributes_of_namesApart ht, h.sorted_texts, h.name,
    h.isEmpty]

/-! ## 3. Sorted tags

The function follows the tag from its name to its end, attribute by attribute, and finds each of them as it was
written. -/

/-- A single space. -/
def space : Gap := ⟨[' '], by decide, by decide⟩

/-- The tag with its attributes in order, one space before each. -/
def sorted (t : WrittenTag) : WrittenTag :=
  { t with
    attributes := (t.attributes.mergeSort fun p q => p.2.text ≤ q.2.text).map fun p => (space, p.2)
    ending := []
    blank := rfl }

theorem texts_sorted (t : WrittenTag) : t.sorted.texts = t.texts.mergeSort (· ≤ ·) := by
  rw [texts, sorted, List.map_map, texts]
  exact List.map_mergeSort (by simp)

theorem rearranges_sorted (t : WrittenTag) : t.sorted.Rearranges t :=
  ⟨rfl, rfl, t.texts_sorted ▸ List.mergeSort_perm ..⟩

theorem document_sorted (t : WrittenTag) (after : String) :
    t.sorted.document after = layout t.name (t.texts.mergeSort (· ≤ ·)) t.isEmpty after := by
  have hchars : attributeChars t.sorted.attributes = t.sorted.texts.flatMap fun a => ' ' :: a.toList := by
    simp [attributeChars, texts, sorted, List.flatMap_map, space, WrittenAttribute.text]
  have hending : t.sorted.ending = [] := rfl
  rw [document, inside, core, hchars, texts_sorted, hending, List.append_nil, layout]
  rfl

/-! ## 4. Names that are taken for white space

White space is a larger class for the function than for markup.  A name with a character of that class in it is cut
there, and of what is behind, something is lost or moved. -/

/-- What is behind the name of a tag that is laid out. -/
theorem head?_behind_name (attributes : List String) (isEmpty : Bool) (rest : List Char) :
    (attributes.flatMap (fun a => ' ' :: a.toList) ++ (if isEmpty then ['/'] else []) ++ '>' :: rest).head? ≠
      some spaceMark := by
  cases attributes with
  | nil =>
    cases isEmpty with
    | false => simp [spaceMark]
    | true => simp [spaceMark]
  | cons a attributes => simp [spaceMark]

/-- The name of a tag is kept only if the space mark is not in it. -/
theorem name_of_isSortedForm {after : String} (h : t.IsSortedForm after (sortRootAttributes (t.document after))) :
    spaceMark ∉ t.name.toList := by
  intro hmem
  obtain ⟨before, rest, hname, hbefore⟩ := List.eq_append_cons_of_mem hmem
  have hvisible : ∀ c ∈ before, (!Unicode.isBlank c) = true := fun c hc => by
    have hnameChar : Xml.isNameChar c = true := Xml.isNameChar_of_isName t.isName c (by simp [hname, hc])
    rw [isBlank_of_isNameChar hnameChar fun heq => hbefore (heq ▸ hc)]
    rfl
  have hfound : (TagParts.ofInside t.inside).name = before := by
    rw [ofInside_inside, takeWhile_trimEndBy, core, hname, List.append_assoc]
    exact (takeWhile_append_of_end hvisible (by simp [show Unicode.isBlank spaceMark = true by decide])).1
  obtain ⟨attributes, -, -, hlaid⟩ := h
  rw [sortRootAttributes_document, hfound, layout, layout, String.ofList_inj] at hlaid
  have hbehind := (List.cons.inj hlaid).2
  rw [hname, String.toList_ofList] at hbehind
  simp only [List.append_assoc] at hbehind
  have hhead := congrArg List.head? (List.append_cancel_left hbehind)
  rw [← List.append_assoc] at hhead
  exact head?_behind_name _ _ _ hhead

theorem length_taken (a : WrittenAttribute) : a.taken.length ≤ a.chars.length := (List.dropWhile_suffix _).length_le

theorem length_taken_lt {a : WrittenAttribute} (h : a.name.toList.head? = some spaceMark) :
    a.taken.length < a.chars.length := by
  obtain ⟨rest, hname⟩ : ∃ rest, a.chars = spaceMark :: rest := by
    obtain ⟨name, hname⟩ := List.head?_eq_some_iff.mp h
    exact ⟨name ++ '=' :: a.quote :: (a.value ++ [a.quote]), by
      simp [WrittenAttribute.chars, WrittenAttribute.lead, hname]⟩
  rw [WrittenAttribute.taken, hname, List.dropWhile_cons_of_pos (by decide), List.length_cons]
  exact Nat.lt_succ_of_le (List.dropWhile_suffix _).length_le

/-- The attributes are kept only if no name begins with the space mark: otherwise the text gets shorter. -/
theorem attributes_of_isSortedForm {after : String} (h : t.IsSortedForm after (sortRootAttributes (t.document after))) :
    ∀ p ∈ t.attributes, p.2.name.toList.head? ≠ some spaceMark := by
  intro p hp hhead
  have hname := name_of_isSortedForm h
  obtain ⟨attributes, hperm, -, hlaid⟩ := h
  rw [sortRootAttributes_of_name hname, layout, layout, String.ofList_inj] at hlaid
  simp only [List.append_assoc] at hlaid
  have hfound := List.append_cancel_right (List.append_cancel_left (List.cons.inj hlaid).2)
  have hlength : (t.attributes.map fun p => p.2.taken.length + 1).sum =
      (t.attributes.map fun p => p.2.chars.length + 1).sum := by
    have htaken := ((List.mergeSort_perm (t.attributes.map fun p => String.ofList p.2.taken) (· ≤ ·)).flatMap_right
      fun a => ' ' :: a.toList).length_eq
    have hchars := (hperm.flatMap_right fun a => ' ' :: a.toList).length_eq
    rw [hfound, hchars] at htaken
    simpa [List.length_flatMap, texts, WrittenAttribute.text, Function.comp_def, eq_comm] using htaken
  have hless := List.sum_lt_sum (fun p : Gap × WrittenAttribute => p.2.taken.length + 1) (fun p => p.2.chars.length + 1)
    (fun p _ => Nat.succ_le_succ (length_taken p.2)) ⟨p, hp, Nat.succ_lt_succ (length_taken_lt hhead)⟩
  exact hless.ne hlength

/-! ## 5. Sorting root tags

Both directions, and what follows from the first for texts that are sorted twice. -/

/-- **Sorted root tags.**  Wherever no name is taken for white space, sorting keeps the name, the kind and the
attributes of a tag and everything behind it, puts the attributes in order with one space before each, changes
nothing when it is done again, and makes the same text of all arrangements of the attributes and of the white space
between them.  Where a name is taken for white space, something of the tag is lost. -/
theorem sorted_iff_namesApart (t : WrittenTag) (after : String) :
    (t.IsSortedForm after (sortRootAttributes (t.document after)) ↔ t.NamesApart) ∧
    (t.NamesApart →
      sortRootAttributes (sortRootAttributes (t.document after)) = sortRootAttributes (t.document after) ∧
      ∀ u : WrittenTag, u.Rearranges t →
        sortRootAttributes (u.document after) = sortRootAttributes (t.document after)) := by
  refine ⟨⟨fun h => ⟨name_of_isSortedForm h, attributes_of_isSortedForm h⟩, fun h => ?_⟩, fun h => ⟨?_, fun u hu => ?_⟩⟩
  · exact ⟨_, List.mergeSort_perm .., pairwise_sorted _, sortRootAttributes_of_namesApart h after⟩
  · rw [sortRootAttributes_of_namesApart h, ← document_sorted, t.rearranges_sorted.sortRootAttributes h,
      sortRootAttributes_of_namesApart h, document_sorted]
  · exact hu.sortRootAttributes h after

/-- Values with brackets, slashes, white space and the other quote. -/
def quoting : WrittenTag where
  name := "r"
  attributes :=
    [(space, ⟨"b", '\'', ['>', '/', ' ', '"'], by decide, by decide, by decide⟩),
      (⟨['\n', '\t'], by decide, by decide⟩, ⟨"a", '"', ['\'', '='], by decide, by decide, by decide⟩)]
  ending := [' ']
  isEmpty := true
  isName := by decide
  blank := by decide

/-- The same with its attributes exchanged. -/
def quotingExchanged : WrittenTag :=
  { quoting with
    attributes := quoting.attributes.reverse.map fun p => (space, p.2)
    ending := []
    blank := by decide }

theorem quoting_sorted :
    quoting.document "x" = "<r b='>/ \"'\n\ta=\"'=\" />x" ∧
    quotingExchanged.document "x" = "<r a=\"'=\" b='>/ \"'/>x" ∧
    quoting.IsSortedForm "x" (sortRootAttributes (quoting.document "x")) ∧
    sortRootAttributes (sortRootAttributes (quoting.document "x")) = sortRootAttributes (quoting.document "x") ∧
    sortRootAttributes (quotingExchanged.document "x") = sortRootAttributes (quoting.document "x") := by
  have happart : quoting.NamesApart := ⟨by decide, by decide⟩
  have hexchanged : quotingExchanged.Rearranges quoting := ⟨rfl, rfl, List.Perm.swap _ _ []⟩
  obtain ⟨hsorted, hsame⟩ := sorted_iff_namesApart quoting "x"
  exact ⟨by decide, by decide, hsorted.mpr happart, (hsame happart).1, (hsame happart).2 _ hexchanged⟩

/-- A name with the space mark in it. -/
def marked : WrittenTag where
  name := "a\u1680b"
  attributes := [(space, ⟨"c", '"', ['1'], by decide, by decide, by decide⟩)]
  ending := []
  isEmpty := true
  isName := by decide
  blank := by decide

/-- The name is divided, and its second part is taken for the beginning of an attribute. -/
theorem marked_not_sorted :
    marked.document "" = "<a\u1680b c=\"1\"/>" ∧
    sortRootAttributes (marked.document "") = "<a b c=\"1\"/>" ∧
    ¬ marked.IsSortedForm "" (sortRootAttributes (marked.document "")) := by
  refine ⟨by decide, ?_, fun h => name_of_isSortedForm h (by decide)⟩
  have hparts : TagParts.ofInside marked.inside = ⟨"a".toList, ["b c=\"1\""], true⟩ := by rfl
  rw [sortRootAttributes_document, hparts, List.mergeSort_singleton]
  decide

end WrittenTag

/-! ## Summary

**What is established.**  For every root tag the sorted text has its sorted form exactly if no name in it is taken for
white space.  If so, sorting is idempotent, and all arrangements of a tag have one sorted text.

**What is not.**  The tag is given as it is written.  That the function finds it behind a prolog is the subject of
`SortedRoots`. -/

end Regraft.Text
