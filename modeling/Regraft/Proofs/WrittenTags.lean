import Regraft.Proofs.Wrapping
import Regraft.Text.RootTag
/-!
# Tags as they are written

A start tag is a name, attributes with white space before each of them, perhaps white space at the end, and a slash if
the element is empty (`WrittenTag`).  The values may have brackets, slashes, white space and the other quote in them.

Two scanners go through such a tag, and each follows the quotes by itself: the search for the end of the tag
(`splitTagEnd_inside`) and the division into attributes (`splitAttributes_attribute`).  What they make of a tag is put
together from what they make of its parts.  The end is always found.  Name and attributes are told apart by white space
of any kind, and there is one character that is white space and of names too, the space mark of Ogham
(`isBlank_of_isNameChar`).  Unless it is in the name of the tag or begins the name of an attribute (`NamesApart`), the
parts that are found are those that were written (`ofInside_of_name`, `taken_eq`).
-/

namespace Regraft.Text

/-! ## 1. White space and names -/

/-- The space mark of Ogham. -/
def spaceMark : Char := '\u1680'

/-- The characters that stand between the parts of a tag. -/
def separators : List Char := ['>', '/', '"', '\'']

variable {c : Char}

/-- White space is of no name, the space mark excepted. -/
theorem isBlank_of_isNameChar (hname : Xml.isNameChar c = true) (hc : c ≠ spaceMark) : Unicode.isBlank c = false := by
  rw [Bool.eq_false_iff]
  intro hblank
  exact hc (forall_isBlank (p := fun c => Xml.isNameChar c = true → c = spaceMark) (by decide +kernel) hblank hname)

theorem not_mem_separators_of_isBlank (h : Unicode.isBlank c = true) : c ∉ separators :=
  forall_isBlank (p := (· ∉ separators)) (by decide +kernel) h

theorem not_mem_separators_of_isNameChar (h : Xml.isNameChar c = true) : c ∉ separators := fun hmem => by
  have hall : separators.all (fun c => !Xml.isNameChar c) = true := by decide
  have hnot := List.all_eq_true.mp hall c hmem
  rw [h] at hnot
  cases hnot

/-! ## 2. Texts of tags -/

/-- White space before an attribute. -/
structure Gap where
  chars : List Char
  ne_nil : chars ≠ []
  blank : chars.all Unicode.isBlank = true

/-- An attribute, quoted with a character that does not stand in its value. -/
structure WrittenAttribute where
  name : String
  quote : Char
  value : List Char
  isName : Xml.isName name = true
  isQuote : quote = '"' ∨ quote = '\''
  closed : quote ∉ value

/-- The parts of a start tag. -/
structure WrittenTag where
  name : String
  attributes : List (Gap × WrittenAttribute)
  /-- White space before the end. -/
  ending : List Char
  isEmpty : Bool
  isName : Xml.isName name = true
  blank : ending.all Unicode.isBlank = true

namespace WrittenAttribute

/-- What precedes the quotes. -/
def lead (a : WrittenAttribute) : List Char := a.name.toList ++ ['=']

def chars (a : WrittenAttribute) : List Char := a.lead ++ a.quote :: (a.value ++ [a.quote])

def text (a : WrittenAttribute) : String := .ofList a.chars

end WrittenAttribute

namespace WrittenTag

def attributeChars (attributes : List (Gap × WrittenAttribute)) : List Char :=
  attributes.flatMap fun p => p.1.chars ++ p.2.chars

/-- What stands between the brackets, up to the last part that is no white space. -/
def core (t : WrittenTag) : List Char := t.name.toList ++ attributeChars t.attributes

/-- What stands between the brackets. -/
def inside (t : WrittenTag) : List Char := t.core ++ t.ending ++ if t.isEmpty then ['/'] else []

/-- A text that begins with the tag. -/
def document (t : WrittenTag) (after : String) : String := .ofList ('<' :: (t.inside ++ '>' :: after.toList))

/-- The attributes as they are written, in their order. -/
def texts (t : WrittenTag) : List String := t.attributes.map (·.2.text)

end WrittenTag

/-! ## 3. The end of the tag -/

/-- The search for the end of a tag passes over a text and goes on behind it, outside quotes. -/
def Passed (s : List Char) : Prop :=
  ∀ rest, splitTagEnd none (s ++ rest) = (splitTagEnd none rest).map fun p => (s ++ p.1, p.2)

variable {s u : List Char} {q : Char}

theorem passed_nil : Passed [] := fun _ => by simp

theorem Passed.append (hs : Passed s) (hu : Passed u) : Passed (s ++ u) := fun rest => by
  rw [List.append_assoc, hs, hu, Option.map_map]
  simp [Function.comp_def]

theorem passed_of_not_mem (h : ∀ c ∈ s, c ∉ separators) : Passed s := fun rest => by
  induction s with
  | nil => simp
  | cons c s ih =>
    have hc := h c List.mem_cons_self
    simp only [separators, List.mem_cons, List.not_mem_nil, or_false, not_or] at hc
    obtain ⟨hgreater, -, hquote, hquote'⟩ := hc
    simp only [List.cons_append, splitTagEnd, hquote, hquote', or_self, if_neg hgreater, ↓reduceIte]
    rw [ih fun d hd => h d (List.mem_cons_of_mem _ hd), Option.map_map]
    rfl

/-- Inside quotes, the search passes over everything up to the same quote. -/
theorem splitTagEnd_quoted (h : q ∉ s) (rest : List Char) :
    splitTagEnd (some q) (s ++ q :: rest) = (splitTagEnd none rest).map fun p => (s ++ q :: p.1, p.2) := by
  induction s with
  | nil => simp [splitTagEnd]
  | cons c s ih =>
    obtain ⟨hc, hs⟩ : ¬ c = q ∧ q ∉ s := by simpa [eq_comm] using h
    simp only [List.cons_append, splitTagEnd, if_neg hc]
    rw [ih hs, Option.map_map]
    rfl

theorem passed_quoted (hq : q = '"' ∨ q = '\'') (h : q ∉ s) : Passed (q :: (s ++ [q])) := fun rest => by
  simp only [List.cons_append, List.append_assoc, List.nil_append, splitTagEnd, if_pos hq]
  rw [splitTagEnd_quoted h, Option.map_map]
  rfl

theorem passed_blank (h : s.all Unicode.isBlank = true) : Passed s :=
  passed_of_not_mem fun c hc => not_mem_separators_of_isBlank (List.all_eq_true.mp h c hc)

theorem passed_name {name : String} (h : Xml.isName name = true) : Passed name.toList :=
  passed_of_not_mem fun c hc => not_mem_separators_of_isNameChar (Xml.isNameChar_of_isName h c hc)

namespace WrittenAttribute

theorem not_mem_separators_lead (a : WrittenAttribute) : ∀ c ∈ a.lead, c ∉ separators := fun c hc => by
  rcases List.mem_append.mp hc with hc | hc
  · exact not_mem_separators_of_isNameChar (Xml.isNameChar_of_isName a.isName c hc)
  · obtain rfl := List.mem_singleton.mp hc
    decide

theorem passed_chars (a : WrittenAttribute) : Passed a.chars :=
  (passed_of_not_mem a.not_mem_separators_lead).append (passed_quoted a.isQuote a.closed)

end WrittenAttribute

namespace WrittenTag

variable (t : WrittenTag)

theorem passed_attributeChars (attributes : List (Gap × WrittenAttribute)) : Passed (attributeChars attributes) := by
  induction attributes with
  | nil => exact passed_nil
  | cons p attributes ih => exact ((passed_blank p.1.blank).append p.2.passed_chars).append ih

theorem passed_inside : Passed t.inside := by
  have hslash : Passed (if t.isEmpty then ['/'] else []) := by
    cases t.isEmpty with
    | false => exact passed_nil
    | true => exact fun rest => rfl
  have hcore : Passed t.core := (passed_name t.isName).append (passed_attributeChars t.attributes)
  exact (hcore.append (passed_blank t.blank)).append hslash

/-- The tag ends where it was written to end. -/
theorem splitTagEnd_inside (after : List Char) :
    splitTagEnd none (t.inside ++ '>' :: after) = some (t.inside, after) := by
  rw [t.passed_inside]
  simp [splitTagEnd]

/-- The tag is found at the beginning of the text. -/
theorem find?_document (after : String) :
    RootTag.find? (t.document after).toList = some ⟨[], t.inside, after.toList⟩ := by
  obtain ⟨c, rest, hname, hall⟩ := Xml.exists_cons_of_isName t.isName
  have hc : Xml.isNameChar c = true := hall c (by simp [hname])
  have hstart : splitRootStart ('<' :: (t.inside ++ '>' :: after.toList)) =
      some ([], t.inside ++ '>' :: after.toList) := by
    rw [splitRootStart, if_pos]
    simp [inside, core, hname, Xml.ne_of_isNameChar hc (show Xml.isNameChar '?' = false by decide),
      Xml.ne_of_isNameChar hc (show Xml.isNameChar '!' = false by decide)]
  rw [document, String.toList_ofList, RootTag.find?, hstart]
  simp [splitTagEnd_inside]

end WrittenTag

/-! ## 4. The division into attributes -/

theorem splitAttributes_blank (h : s.all Unicode.isBlank = true) (rest : List Char) :
    splitAttributes .between (s ++ rest) = splitAttributes .between rest := by
  induction s with
  | nil => rfl
  | cons c s ih =>
    obtain ⟨hc, hs⟩ := Bool.and_eq_true_iff.mp h
    rw [List.cons_append, splitAttributes, if_pos hc, ih hs]

/-- An attribute goes on up to a quote. -/
theorem splitAttributes_within (h : ∀ c ∈ s, c ∉ separators) (reversed rest : List Char) :
    splitAttributes (.within reversed none) (s ++ rest) =
      splitAttributes (.within (s.reverse ++ reversed) none) rest := by
  induction s generalizing reversed with
  | nil => rfl
  | cons c s ih =>
    have hc := h c List.mem_cons_self
    simp only [separators, List.mem_cons, List.not_mem_nil, or_false, not_or] at hc
    obtain ⟨-, -, hquote, hquote'⟩ := hc
    simp only [List.cons_append, splitAttributes, hquote, hquote', or_self, ↓reduceIte]
    rw [ih fun d hd => h d (List.mem_cons_of_mem _ hd)]
    simp

/-- It ends with the same quote. -/
theorem splitAttributes_quoted (h : q ∉ s) (reversed rest : List Char) :
    splitAttributes (.within reversed (some q)) (s ++ q :: rest) =
      (reversed.reverse ++ (s ++ [q])) :: splitAttributes .between rest := by
  induction s generalizing reversed with
  | nil => simp [splitAttributes]
  | cons c s ih =>
    obtain ⟨hc, hs⟩ : ¬ c = q ∧ q ∉ s := by simpa [eq_comm] using h
    rw [List.cons_append, splitAttributes, if_neg hc, ih hs]
    simp

/-- White space is skipped before an attribute, also where it is of the text in front of the quotes. -/
theorem splitAttributes_unquoted (h : ∀ c ∈ s, c ∉ separators) (hs : ∃ c ∈ s, Unicode.isBlank c = false)
    (rest : List Char) :
    splitAttributes .between (s ++ rest) =
      splitAttributes (.within (s.dropWhile Unicode.isBlank).reverse none) rest := by
  induction s with
  | nil =>
    obtain ⟨c, hc, -⟩ := hs
    cases hc
  | cons c s ih =>
    have hrest : ∀ d ∈ s, d ∉ separators := fun d hd => h d (List.mem_cons_of_mem _ hd)
    rw [List.cons_append, splitAttributes, List.dropWhile_cons]
    split
    · rename_i hblank
      refine ih hrest ?_
      obtain ⟨d, hd, hvisible⟩ := hs
      rcases List.mem_cons.mp hd with rfl | hd
      · rw [hblank] at hvisible
        cases hvisible
      · exact ⟨d, hd, hvisible⟩
    · rw [splitAttributes_within hrest, List.reverse_cons]

/-- What is taken for an attribute. -/
def WrittenAttribute.taken (a : WrittenAttribute) : List Char := a.chars.dropWhile Unicode.isBlank

theorem splitAttributes_attribute (a : WrittenAttribute) (rest : List Char) :
    splitAttributes .between (a.chars ++ rest) = a.taken :: splitAttributes .between rest := by
  have hequals : ∃ c ∈ a.lead, Unicode.isBlank c = false := ⟨'=', by simp [WrittenAttribute.lead], by decide⟩
  have htaken : a.taken = a.lead.dropWhile Unicode.isBlank ++ a.quote :: (a.value ++ [a.quote]) := by
    rw [WrittenAttribute.taken, WrittenAttribute.chars, List.dropWhile_append, if_neg]
    simpa using hequals
  calc splitAttributes .between (a.chars ++ rest)
      = splitAttributes .between (a.lead ++ a.quote :: (a.value ++ a.quote :: rest)) := by
        simp [WrittenAttribute.chars]
    _ = splitAttributes (.within (a.lead.dropWhile Unicode.isBlank).reverse none)
          (a.quote :: (a.value ++ a.quote :: rest)) :=
        splitAttributes_unquoted a.not_mem_separators_lead hequals _
    _ = splitAttributes (.within (a.quote :: (a.lead.dropWhile Unicode.isBlank).reverse) (some a.quote))
          (a.value ++ a.quote :: rest) := by rw [splitAttributes, if_pos a.isQuote]
    _ = a.taken :: splitAttributes .between rest := by
        rw [splitAttributes_quoted a.closed, htaken]
        simp

theorem splitAttributes_attributeChars (attributes : List (Gap × WrittenAttribute)) :
    splitAttributes .between (WrittenTag.attributeChars attributes) = attributes.map (·.2.taken) := by
  induction attributes with
  | nil => rfl
  | cons p attributes ih =>
    rw [WrittenTag.attributeChars, List.flatMap_cons, List.append_assoc, splitAttributes_blank p.1.blank,
      splitAttributes_attribute, ← WrittenTag.attributeChars, ih, List.map_cons]

/-! ## 5. The parts of the tag -/

namespace WrittenTag

variable (t : WrittenTag)

/-- A tag without what is at its end ends with a character of its name or with a quote. -/
theorem forall_getLast?_core {P : Char → Prop} (hname : ∀ c ∈ t.name.toList, P c) (hquotes : P '"' ∧ P '\'') :
    ∀ c ∈ t.core.getLast?, P c := by
  refine forall_getLast?_append (fun c hc => hname c (List.mem_of_getLast? hc)) ?_
  induction t.attributes with
  | nil => simp [attributeChars]
  | cons p attributes ih =>
    refine forall_getLast?_append (fun c hc => ?_) ih
    obtain rfl : p.2.quote = c := by simpa [WrittenAttribute.chars, List.getLast?_cons] using hc
    rcases p.2.isQuote with hq | hq
    · exact hq ▸ hquotes.1
    · exact hq ▸ hquotes.2

/-- Whether the tag is that of an empty element is read off its end, and the rest is divided by its white space. -/
theorem ofInside_inside : TagParts.ofInside t.inside =
    { name := (trimEndBy Unicode.isBlank t.core).takeWhile (!Unicode.isBlank ·)
      attributes :=
        (splitAttributes .between ((trimEndBy Unicode.isBlank t.core).dropWhile (!Unicode.isBlank ·))).map .ofList
      isEmpty := t.isEmpty } := by
  have hends : ∀ c ∈ (t.core ++ t.ending).getLast?, c ≠ '/' := by
    refine forall_getLast?_append (t.forall_getLast?_core (fun c hc => ?_) (by decide)) fun c hc => ?_
    · rintro rfl
      exact not_mem_separators_of_isNameChar (Xml.isNameChar_of_isName t.isName _ hc) (by decide)
    · rintro rfl
      have hblank := List.all_eq_true.mp t.blank _ (List.mem_of_getLast? hc)
      exact not_mem_separators_of_isBlank hblank (by decide)
  rw [← trimEndBy_append t.blank t.core]
  cases hempty : t.isEmpty with
  | true => simp [TagParts.ofInside, inside, hempty]
  | false =>
    have hlast : ((t.core ++ t.ending).getLast? == some '/') = false := by
      rw [beq_eq_false_iff_ne]
      exact fun hlast => hends '/' hlast rfl
    rw [TagParts.ofInside, inside, hempty, if_neg Bool.false_ne_true, List.append_nil, hlast]
    rfl

/-- The space mark neither stands in the name nor begins the name of an attribute. -/
def NamesApart : Prop :=
  spaceMark ∉ t.name.toList ∧ ∀ p ∈ t.attributes, p.2.name.toList.head? ≠ some spaceMark

variable {t}

/-- An attribute whose name does not begin with the space mark is taken as it is. -/
theorem taken_eq {a : WrittenAttribute} (h : a.name.toList.head? ≠ some spaceMark) : a.taken = a.chars := by
  obtain ⟨c, rest, hname, hall⟩ := Xml.exists_cons_of_isName a.isName
  have hvisible : Unicode.isBlank c = false :=
    isBlank_of_isNameChar (hall c (by simp [hname])) fun heq => h (by rw [hname, heq, List.head?_cons])
  simp [WrittenAttribute.taken, WrittenAttribute.chars, WrittenAttribute.lead, hname, hvisible]

/-- If the space mark is not in the name, the parts are the name and what is taken for the attributes. -/
theorem ofInside_of_name (h : spaceMark ∉ t.name.toList) : TagParts.ofInside t.inside =
    { name := t.name.toList, attributes := t.attributes.map fun p => .ofList p.2.taken, isEmpty := t.isEmpty } := by
  have hvisible : ∀ c ∈ t.name.toList, Unicode.isBlank c = false := fun c hc =>
    isBlank_of_isNameChar (Xml.isNameChar_of_isName t.isName c hc) fun heq => h (heq ▸ hc)
  have hcore : trimEndBy Unicode.isBlank t.core = t.core :=
    trimEndBy_of_getLast? (t.forall_getLast?_core hvisible (by decide))
  have hbegins : ∀ c ∈ (attributeChars t.attributes).head?, (!Unicode.isBlank c) = false := fun c hc => by
    cases hattributes : t.attributes with
    | nil => simp [hattributes, attributeChars] at hc
    | cons p attributes =>
      obtain ⟨d, gap, hgap⟩ := List.exists_cons_of_ne_nil p.1.ne_nil
      obtain rfl : d = c := by simpa [hattributes, attributeChars, hgap] using hc
      simp [List.all_eq_true.mp p.1.blank d (by simp [hgap])]
  obtain ⟨hname, hrest⟩ := takeWhile_append_of_end (p := (!Unicode.isBlank ·)) (by simpa using hvisible) hbegins
  rw [ofInside_inside, hcore, core, hname, hrest, splitAttributes_attributeChars, List.map_map]
  rfl

end WrittenTag

end Regraft.Text
