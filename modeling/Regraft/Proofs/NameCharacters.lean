import Regraft.Proofs.FragmentNames
import Regraft.Proofs.UsedPrefixes
/-!
# Names of paths and names of markup

The names of paths are made of alphabetic characters and numbers, the names of markup of the characters in a table.
Nearly all alphabetic characters and numbers are in the table, but not all: `strayStarts` are those that a name of
paths begins with and a name of markup does not, `strayOthers` those that the one goes on with and the other does not.
That there are no others is checked run by run over the categories of all characters (`forall_category`).

So a name of paths is one of markup exactly if it does not stray (`isNCName_iff_not_strays`), and this is so of every
prefix and every local part in a path, at any depth (`ncname_of_mem_nameParts`).
-/

namespace Regraft

/-! ## 1. Categories run by run

A check of all characters by the table: a run of one category is held against ranges of code points at once, and a
whole table in one evaluation. -/

namespace Unicode

/-- One of the ranges holds every number from `lo` to `hi`. -/
def holdsAll (ranges : List (Nat × Nat)) (lo hi : Nat) : Bool :=
  ranges.any fun r => r.1.ble lo && hi.ble r.2

/-- The runs of the good categories from `lo` to `hi` each lie in a range; `current` is the category at `lo`. -/
def runsHeld (good : Category → Bool) (ranges : List (Nat × Nat)) (hi : Nat) (lo : Nat) (current : Category) :
    List (Nat × Category) → Bool
  | [] => !good current || holdsAll ranges lo hi
  | (first, next) :: rest =>
    (!good current || holdsAll ranges lo (first - 1)) && runsHeld good ranges hi first next rest

/-- The runs of the good categories up to `hi` each lie in a range, in every block. -/
def blocksHeld (good : Category → Bool) (ranges : List (Nat × Nat)) (hi : Nat) (lo : Nat)
    (current : List (Nat × Category)) : List (Nat × List (Nat × Category)) → Bool
  | [] => runsHeld good ranges hi lo .cn current
  | (first, next) :: rest =>
    runsHeld good ranges (first - 1) lo .cn current && blocksHeld good ranges hi first next rest

variable {good : Category → Bool} {ranges : List (Nat × Nat)} {lo hi n : Nat}

theorem exists_range_of_holdsAll (h : holdsAll ranges lo hi = true) (hlo : lo ≤ n) (hhi : n ≤ hi) :
    ∃ r ∈ ranges, r.1 ≤ n ∧ n ≤ r.2 := by
  obtain ⟨r, hr, hrange⟩ := List.any_eq_true.mp h
  rw [Bool.and_eq_true, Nat.ble_eq, Nat.ble_eq] at hrange
  exact ⟨r, hr, by omega, by omega⟩

theorem exists_range_of_runsHeld {runs : List (Nat × Category)} {current : Category}
    (h : runsHeld good ranges hi lo current runs = true) (hlo : lo ≤ n) (hhi : n ≤ hi)
    (hgood : good (categoryIn n current runs) = true) : ∃ r ∈ ranges, r.1 ≤ n ∧ n ≤ r.2 := by
  induction runs generalizing lo current with
  | nil =>
    have hgood : good current = true := hgood
    rw [runsHeld, hgood] at h
    exact exists_range_of_holdsAll h hlo hhi
  | cons run rest ih =>
    obtain ⟨first, next⟩ := run
    rw [runsHeld, Bool.and_eq_true] at h
    rw [categoryIn] at hgood
    split at hgood
    · rename_i hbefore
      have hrun := h.1
      rw [hgood] at hrun
      exact exists_range_of_holdsAll hrun hlo (by omega)
    · rename_i hfrom
      exact ih h.2 (Nat.le_of_not_lt hfrom) hgood

theorem exists_range_of_blocksHeld {blocks : List (Nat × List (Nat × Category))} {current : List (Nat × Category)}
    (h : blocksHeld good ranges hi lo current blocks = true) (hlo : lo ≤ n) (hhi : n ≤ hi)
    (hgood : good (categoryIn n .cn (blockOf n current blocks)) = true) : ∃ r ∈ ranges, r.1 ≤ n ∧ n ≤ r.2 := by
  induction blocks generalizing lo current with
  | nil => exact exists_range_of_runsHeld h hlo hhi hgood
  | cons block rest ih =>
    obtain ⟨first, next⟩ := block
    rw [blocksHeld, Bool.and_eq_true] at h
    rw [blockOf] at hgood
    split at hgood
    · rename_i hbefore
      exact exists_range_of_runsHeld h.1 hlo (by omega) hgood
    · rename_i hfrom
      exact ih h.2 (Nat.le_of_not_lt hfrom) hgood

/-- **What is checked run by run holds of every character**: those of the good categories are in the ranges. -/
theorem inRanges_of_category (h : blocksHeld good ranges 0x10FFFF 0 [] categoryBlocks = true) {c : Char}
    (hc : good (category c) = true) : inRanges ranges c = true := by
  have hhi : c.toNat ≤ 0x10FFFF := by
    have hvalid : c.toNat.isValidChar := c.valid
    rcases hvalid with hlt | ⟨-, hlt⟩
    · omega
    · omega
  obtain ⟨r, hr, hlo, hhi⟩ := exists_range_of_blocksHeld h (Nat.zero_le _) hhi hc
  exact List.any_eq_true.mpr ⟨r, hr, by simp [hlo, hhi]⟩

theorem inRanges_of_inRanges {others : List (Nat × Nat)} (h : (others.all fun r => holdsAll ranges r.1 r.2) = true)
    {c : Char} (hc : inRanges others c = true) : inRanges ranges c = true := by
  obtain ⟨r, hr, hrange⟩ := List.any_eq_true.mp hc
  simp only [Bool.and_eq_true, decide_eq_true_eq] at hrange
  obtain ⟨q, hq, hlo, hhi⟩ := exists_range_of_holdsAll (List.all_eq_true.mp h r hr) hrange.1 hrange.2
  exact List.any_eq_true.mpr ⟨q, hq, by simp [hlo, hhi]⟩

/-- Ranges that do not meet hold no character together. -/
theorem not_inRanges_of_apart {others : List (Nat × Nat)}
    (h : (ranges.all fun r => others.all fun q => r.2 < q.1 || q.2 < r.1) = true) {c : Char}
    (hc : inRanges ranges c = true) : inRanges others c = false := by
  obtain ⟨r, hr, hrange⟩ := List.any_eq_true.mp hc
  refine List.any_eq_false.mpr fun q hq hother => ?_
  have hapart := List.all_eq_true.mp (List.all_eq_true.mp h r hr) q hq
  simp only [Bool.or_eq_true, Bool.and_eq_true, decide_eq_true_eq] at hrange hother hapart
  omega

end Unicode

/-! ## 2. Characters of names

The characters that are alphabetic, or numbers, and are none that markup has in a name.  They are listed, and the
evaluation shows that the lists are complete. -/

namespace Xml

open Unicode (inRanges)

/-- The characters that a name of markup begins with, but for the colon. -/
def startRanges : List (Nat × Nat) := [(0x41, 0x5A), (0x61, 0x7A), (0x5F, 0x5F)] ++ nameStartRanges

/-- The characters that a name of markup goes on with, but for the colon. -/
def charRanges : List (Nat × Nat) := startRanges ++ [(0x30, 0x39), (0x2D, 0x2E)] ++ nameOnlyRanges

theorem beq_eq_inRanges (c d : Char) : (c == d) = inRanges [(d.toNat, d.toNat)] c := by
  rw [Bool.eq_iff_iff, beq_iff_eq, ← Char.toNat_inj]
  simp only [inRanges, List.any_cons, List.any_nil, Bool.or_false, Bool.and_eq_true, decide_eq_true_eq]
  omega

theorem isNameStart_eq (c : Char) : isNameStart c = (c == ':' || inRanges startRanges c) := by
  have hletter : c.isAlpha = inRanges [(0x41, 0x5A), (0x61, 0x7A)] c := by
    rw [Bool.eq_iff_iff]
    delta Char.isAlpha Char.isUpper Char.isLower
    simp [inRanges, UInt32.le_iff_toNat_le]
  have hline : (c == '_') = inRanges [(0x5F, 0x5F)] c := beq_eq_inRanges c '_'
  have hranges : inRanges startRanges c =
      (inRanges [(0x41, 0x5A), (0x61, 0x7A)] c || (inRanges [(0x5F, 0x5F)] c || isWithin nameStartRanges c)) := by
    rw [startRanges, inRanges, List.any_append]
    simp only [inRanges, isWithin, List.any_cons, List.any_nil, Bool.or_false, Bool.or_assoc]
  rw [isNameStart, hletter, hline, hranges]
  cases c == ':' <;> simp [Bool.or_assoc]

theorem isNameChar_eq (c : Char) : isNameChar c = (c == ':' || inRanges charRanges c) := by
  have hdigit : c.isDigit = inRanges [(0x30, 0x39)] c := by
    rw [Bool.eq_iff_iff]
    simp [Char.isDigit, inRanges, UInt32.le_iff_toNat_le]
  have hmarks : (c == '-' || c == '.') = inRanges [(0x2D, 0x2E)] c := by
    rw [beq_eq_inRanges, beq_eq_inRanges, Bool.eq_iff_iff]
    simp only [inRanges, List.any_cons, List.any_nil, Bool.or_false, Bool.or_eq_true, Bool.and_eq_true,
      decide_eq_true_eq]
    have hdash : '-'.toNat = 0x2D := rfl
    have hdot : '.'.toNat = 0x2E := rfl
    omega
  have hranges : inRanges charRanges c = (inRanges startRanges c ||
      (inRanges [(0x30, 0x39)] c || (inRanges [(0x2D, 0x2E)] c || isWithin nameOnlyRanges c))) := by
    rw [charRanges, inRanges, List.any_append, List.any_append]
    simp only [inRanges, isWithin, List.any_cons, List.any_nil, Bool.or_false, Bool.or_assoc]
  rw [isNameChar, isNameStart_eq, hdigit, hranges, ← hmarks]
  simp only [Bool.or_assoc]

end Xml

namespace Path

open Path.Parser (isNameStart isNameChar)
open Unicode (inRanges)

/-- The characters that names of paths begin with and names of markup do not: the indicators of ordinals, the micro
sign, combining letters and letters in circles. -/
def strayStarts : List (Nat × Nat) :=
  [(0xAA, 0xAA), (0xB5, 0xB5), (0xBA, 0xBA), (0x345, 0x345), (0x363, 0x36F), (0x24B6, 0x24E9)]

/-- The characters that names of paths go on with and names of markup do not: of those above all but the combining
letters, and raised numbers, fractions and numbers in circles, in parentheses or before a full stop. -/
def strayOthers : List (Nat × Nat) :=
  [(0xAA, 0xAA), (0xB2, 0xB3), (0xB5, 0xB5), (0xB9, 0xBA), (0xBC, 0xBE), (0x2460, 0x249B), (0x24B6, 0x24FF),
    (0x2776, 0x2793)]

variable {c : Char}

theorem inRanges_append (ranges others : List (Nat × Nat)) :
    inRanges (ranges ++ others) c = (inRanges ranges c || inRanges others c) := by
  rw [inRanges, List.any_append]
  rfl

/-- The categories of alphabetic characters. -/
def alphabetic (g : Unicode.Category) : Bool := g.isLetter || g == .nl

/-- The categories of alphabetic characters and numbers. -/
def alphanumeric (g : Unicode.Category) : Bool := g.isLetter || g == .nl || g.isNumber

/-- Alphabetic characters begin a name of markup, or they stray. -/
theorem start_or_stray (h : Unicode.isAlphabetic c = true) : inRanges (Xml.startRanges ++ strayStarts) c = true := by
  rw [Unicode.isAlphabetic, Bool.or_eq_true] at h
  rcases h with hcategory | hother
  · have hheld : Unicode.blocksHeld alphabetic (Xml.startRanges ++ strayStarts) 0x10FFFF 0 [] Unicode.categoryBlocks =
        true := by decide +kernel
    exact Unicode.inRanges_of_category hheld hcategory
  · exact Unicode.inRanges_of_inRanges (by decide +kernel) hother

/-- Alphabetic characters and numbers go on with a name of markup, or they stray. -/
theorem char_or_stray (h : Unicode.isAlphanumeric c = true) : inRanges (Xml.charRanges ++ strayOthers) c = true := by
  have hcases : ((Unicode.category c).isLetter || Unicode.category c == .nl || (Unicode.category c).isNumber) = true ∨
      inRanges Unicode.otherAlphabetic c = true := by
    simp only [Unicode.isAlphanumeric, Unicode.isAlphabetic, Bool.or_eq_true] at h ⊢
    rcases h with (h | h) | h
    · exact .inl (.inl h)
    · exact .inr h
    · exact .inl (.inr h)
  rcases hcases with hcategory | hother
  · have hheld : Unicode.blocksHeld alphanumeric (Xml.charRanges ++ strayOthers) 0x10FFFF 0 [] Unicode.categoryBlocks =
        true := by decide +kernel
    exact Unicode.inRanges_of_category hheld hcategory
  · exact Unicode.inRanges_of_inRanges (by decide +kernel) hother

/-- **A character that a name of paths begins with begins a name of markup exactly if it does not stray.** -/
theorem isNameStart_iff_not_stray (h : isNameStart c = true) :
    Xml.isNameStart c = true ↔ inRanges strayStarts c = false := by
  have hheld : inRanges (Xml.startRanges ++ strayStarts) c = true := by
    rcases Parser.isNameStart_iff.mp h with halphabetic | rfl
    · exact start_or_stray halphabetic
    · decide
  have hcolon : (c == ':') = false := by
    rw [beq_eq_false_iff_ne]
    rintro rfl
    exact absurd h (by decide +kernel)
  rw [inRanges_append, Bool.or_eq_true] at hheld
  rw [Xml.isNameStart_eq, hcolon, Bool.false_or]
  constructor
  · intro hstart
    exact Unicode.not_inRanges_of_apart (by decide) hstart
  · intro hstray
    exact hheld.resolve_right (by simp [hstray])

/-- **A character that a name of paths goes on with goes on with a name of markup exactly if it does not stray.** -/
theorem isNameChar_iff_not_stray (h : isNameChar c = true) :
    Xml.isNameChar c = true ↔ inRanges strayOthers c = false := by
  have hheld : inRanges (Xml.charRanges ++ strayOthers) c = true := by
    rcases Parser.isNameChar_iff.mp h with halphanumeric | rfl | rfl | rfl
    · exact char_or_stray halphanumeric
    · decide
    · decide
    · decide
  have hcolon : (c == ':') = false := by
    rw [beq_eq_false_iff_ne]
    rintro rfl
    exact absurd h (by simp [Parser.isNameChar_punctuation])
  rw [inRanges_append, Bool.or_eq_true] at hheld
  rw [Xml.isNameChar_eq, hcolon, Bool.false_or]
  constructor
  · intro hchar
    exact Unicode.not_inRanges_of_apart (by decide) hchar
  · intro hstray
    exact hheld.resolve_right (by simp [hstray])

end Path

/-! ## 3. Names

From characters to names, and from names to all names in a path. -/

/-- Whether a text is a name of markup without a colon. -/
def Xml.isNCName (s : String) : Bool := isName s && !s.toList.contains ':'

/-- Whether a name begins with a character that strays, or goes on with one. -/
def Path.strays (s : String) : Bool :=
  s.toList.head?.any (Unicode.inRanges strayStarts) || s.toList.tail.any (Unicode.inRanges strayOthers)

namespace Path

open Grammar

/-- **A name of paths is one of markup exactly if it does not stray.** -/
theorem isNCName_iff_not_strays {s : String} (h : NCName s.toList) : Xml.isNCName s = true ↔ strays s = false := by
  have hcolon : ':' ∉ s.toList := colon_not_mem_of_ncname h
  rw [Xml.isNCName, Xml.isName, strays]
  generalize s.toList = chars at h hcolon
  cases h with
  | @mk c rest first others =>
    have hstart := isNameStart_iff_not_stray (Parser.isNameStart_iff.mpr first)
    have hothers : rest.all Xml.isNameChar = true ↔ rest.any (Unicode.inRanges strayOthers) = false := by
      rw [List.all_eq_true, List.any_eq_false]
      refine forall₂_congr fun d hd => ?_
      rw [isNameChar_iff_not_stray (Parser.isNameChar_iff.mpr (others d hd)), Bool.not_eq_true]
    have hfirst : Xml.isNameStart c = true → Xml.isNameChar c = true := by
      intro hc
      simp [Xml.isNameChar, hc]
    simp only [List.head?_cons, Option.any_some, List.tail_cons, List.all_cons, Bool.and_eq_true, Bool.or_eq_false_iff,
      ← hstart, ← hothers, List.contains_eq_mem, hcolon, decide_false, Bool.not_false, and_true]
    exact ⟨fun hname => ⟨hname.1, hname.2.2⟩, fun hname => ⟨hname.1, hfirst hname.1, hname.2⟩⟩

end Path

/-- The name that a test asks for. -/
def Test.name? : Test → Option Name
  | .element n | .attribute n => some n
  | _ => none

/-- The prefix of a name, if it has one, and its local part. -/
def Name.parts (n : Name) : List String := n.namespacePrefix.toList ++ [n.localPart]

/-- The prefixes and local parts of all names in a path, those in predicates included. -/
def Path.nameParts (p : Path) : List String :=
  p.allSteps.flatMap fun s => s.test.name?.toList.flatMap Name.parts

namespace Path.Grammar

theorem ncname_of_isName {s : List Char} {n : Name} (h : IsName s n) : ∀ part ∈ n.parts, NCName part.toList := by
  cases h with
  | bare h => simpa [Name.parts] using h
  | prefixed hs ht => simpa [Name.parts] using ⟨hs, ht⟩

theorem ncname_of_isTest {s : List Char} {t : Test} (h : IsTest s t) :
    ∀ n ∈ t.name?, ∀ part ∈ n.parts, NCName part.toList := by
  intro n hn
  cases h with
  | here => cases hn
  | parent => cases hn
  | anyElement => cases hn
  | text => cases hn
  | «attribute» h =>
    cases hn
    exact ncname_of_isName h
  | element h =>
    cases hn
    exact ncname_of_isName h

/-- The names in the tests of the steps are names of paths. -/
def NamesAre (steps : List Step) : Prop :=
  ∀ s ∈ steps, ∀ n ∈ s.test.name?, ∀ part ∈ n.parts, NCName part.toList

theorem namesAre_append {steps others : List Step} (h : NamesAre steps) (h' : NamesAre others) :
    NamesAre (steps ++ others) := by
  intro s hs
  rcases List.mem_append.mp hs with hs | hs
  · exact h s hs
  · exact h' s hs

mutual

/-- The names in what is written as steps are names of paths, at every depth. -/
theorem namesAre_of_areSteps : ∀ {s : List Char} {xs : List Step}, AreSteps s xs → NamesAre (stepsWithin xs)
  | _, _, .one h => by
    rw [stepsWithin, stepsWithin, List.append_nil]
    exact namesAre_of_isStep h
  | _, _, .more h hs => by
    rw [stepsWithin]
    exact namesAre_append (namesAre_of_isStep h) (namesAre_of_areSteps hs)

theorem namesAre_of_isStep : ∀ {s : List Char} {x : Step}, IsStep s x → NamesAre x.allSteps
  | _, _, .mk h hs => by
    rw [Step.allSteps]
    intro x hx
    rcases List.mem_cons.mp hx with rfl | hx
    · exact ncname_of_isTest h
    · exact namesAre_of_arePredicates hs x hx

theorem namesAre_of_arePredicates : ∀ {s : List Char} {ps : List Predicate}, ArePredicates s ps →
    NamesAre (stepsWithinPredicates ps)
  | _, _, .nil => by
    rw [stepsWithinPredicates]
    exact fun _ hs => absurd hs List.not_mem_nil
  | _, _, .cons _ h _ hs => by
    rw [stepsWithinPredicates]
    exact namesAre_append (namesAre_of_isBody h) (namesAre_of_arePredicates hs)

theorem namesAre_of_isBody : ∀ {s : List Char} {p : Predicate}, IsBody s p → NamesAre p.allSteps
  | _, _, .position _ _ _ => by
    rw [Predicate.allSteps]
    exact fun _ hs => absurd hs List.not_mem_nil
  | _, _, .exists h => by
    rw [Predicate.allSteps, Path.allSteps]
    exact namesAre_of_areSteps h
  | _, _, .compare h _ ht => by
    cases ht with
    | equals _ _ =>
      rw [Predicate.allSteps, Path.allSteps]
      exact namesAre_of_areSteps h
    | differs _ _ =>
      rw [Predicate.allSteps, Path.allSteps]
      exact namesAre_of_areSteps h

end

/-- **All prefixes and local parts in what is read as a path are names of paths.** -/
theorem ncname_of_mem_nameParts {text : String} {p : Path} (h : Denotes text p) {part : String}
    (hpart : part ∈ p.nameParts) : NCName part.toList := by
  obtain ⟨s, hs, hname⟩ := List.mem_flatMap.mp hpart
  obtain ⟨n, hn, hmem⟩ := List.mem_flatMap.mp hname
  rw [Path.allSteps_eq] at hs
  cases h with
  | empty =>
    rw [stepsWithin] at hs
    cases hs
  | steps h => exact namesAre_of_areSteps h s hs n (by simpa using hn) part hmem

end Path.Grammar

end Regraft
