import Regraft.Pattern.AsciiClass
import Regraft.Pattern.PropertyName
import Regraft.Proofs.CharacterSets
/-!
# The sets of properties are proper

Every set that a pattern can name is proper (`proper_propertyClass`, `proper_asciiClass`).  Tables list their runs and
ranges in ascending order, none of which divides the surrogates: that is read off the tables.  What is put together from
such sets is proper by the operations that put it together (`proper_listed`), whatever the tables hold.
-/

namespace Regraft.Unicode

open CharSet (Apart Proper Ascending)

/-! ## 1. General categories

The table of categories lists where runs begin.  Membership of some categories changes at some of these places, so the
changes ascend because the runs do.  The table is checked once, as a whole (`runsFrom`), and what follows holds for all
sets of categories. -/

/-- Whether runs of categories are in ascending order and begin at a code point or behind it. -/
def runsFrom (n : Nat) : List (Nat × Category) → Bool
  | [] => true
  | (first, _) :: rest => n ≤ first && decide (Apart first) && first < 0x110000 && runsFrom (first + 1) rest

/-- Where membership changes, a run begins or all end. -/
theorem categoryChanges_spec (categories : List Category) (inside : Bool) {n : Nat} (hn : n ≤ 0x110000)
    {runs : List (Nat × Category)} (h : runsFrom n runs = true) :
    Ascending (categoryChanges categories inside runs) ∧
      ∀ m ∈ categoryChanges categories inside runs, n ≤ m ∧ Apart m := by
  induction runs generalizing n inside with
  | nil =>
    rw [categoryChanges]
    split
    · exact ⟨List.pairwise_singleton _ _, List.forall_mem_singleton.mpr ⟨hn, by decide⟩⟩
    · exact ⟨.nil, nofun⟩
  | cons run rest ih =>
    obtain ⟨first, category⟩ := run
    simp only [runsFrom, Bool.and_eq_true, decide_eq_true_eq] at h
    obtain ⟨⟨⟨hle, hfirst⟩, hlt⟩, hrest⟩ := h
    obtain ⟨hascending, hlater⟩ := ih (categories.contains category) (by omega) hrest
    have hlater' : ∀ m ∈ categoryChanges categories (categories.contains category) rest, n ≤ m ∧ Apart m :=
      fun m hm => ⟨by have := (hlater m hm).1; omega, (hlater m hm).2⟩
    rw [categoryChanges]
    split
    · exact ⟨hascending, hlater'⟩
    · exact ⟨List.pairwise_cons.mpr ⟨fun m hm => (hlater m hm).1, hascending⟩,
        List.forall_mem_cons.mpr ⟨⟨hle, hfirst⟩, hlater'⟩⟩

/-- The code points of some categories, in the version that the table is of. -/
theorem proper_latest (categories : List Category) :
    Proper ⟨categoryChanges categories false (categoryBlocks.flatMap fun block => block.2)⟩ := by
  have hruns : runsFrom 0 (categoryBlocks.flatMap fun block => block.2) = true := by decide +kernel
  obtain ⟨hascending, hlater⟩ := categoryChanges_spec categories false (Nat.zero_le _) hruns
  exact ⟨hascending, fun m hm => (hlater m hm).2⟩

namespace CharSet

theorem proper_newest : newest.Proper :=
  proper_ofRanges (by decide +kernel)

theorem proper_settled {ranges : List (Nat × Nat)} (h : separateFrom 0 ranges = true) : (settled ranges).Proper :=
  (proper_ofRanges h).sdiff proper_newest

/-- The characters of some categories are a proper set in every version. -/
theorem proper_ofCategories (categories : List Category) : (ofCategories categories).Proper := by
  have hsettled := ((proper_latest categories).sdiff proper_newest).sdiff (proper_single movedLetter)
  rw [ofCategories]
  split
  · split
    · exact (hsettled.union proper_newest).union (proper_single movedLetter)
    · exact hsettled.union (proper_single movedLetter)
  · split
    · exact hsettled.union proper_newest
    · exact hsettled

theorem proper_fold {s : CharSet} (h : s.Proper) : s.fold.Proper :=
  h.union (proper_ofList _)

theorem proper_foldAscii {s : CharSet} (h : s.Proper) : s.foldAscii.Proper :=
  h.union (proper_ofList _)

theorem proper_changedBy (expansions : List (Nat × List Nat)) (runs : List CaseRun) :
    (changedBy expansions runs).Proper :=
  (proper_ofList _).sdiff proper_newest

/-! ## 2. Scripts and ages

The tables of scripts, extensions and ages list ranges.  Each range begins behind the end of the one before it, which is
read off the tables as well. -/

/-- The ranges of every script ascend. -/
theorem separate_scripts : ∀ scripts ∈ scriptLists, ∀ s ∈ scripts, separateFrom 0 s.ranges = true := by
  decide +kernel

theorem proper_script {name : String} {s : Script} (h : script? name = some s) : (ofRanges s.ranges).Proper := by
  obtain ⟨scripts, hscripts, hs⟩ := List.exists_of_findSome?_eq_some h
  exact proper_ofRanges (separate_scripts scripts hscripts s (List.mem_of_find?_eq_some hs))

theorem proper_ofScript (name : String) : (ofScript name).Proper := by
  rw [ofScript]
  cases h : script? name with
  | none => exact proper_empty
  | some s => exact proper_script h

/-- So do those of the characters that several scripts use. -/
theorem separate_extensions : Separate (scriptExtensions.map fun e => (e.1, e.2.1)) :=
  (separate_of_separateFrom (n := 0) (by decide +kernel)).1

theorem proper_usedIn {name : String} {s : Script} (h : script? name = some s) : (usedIn s).Proper :=
  ((proper_script h).sdiff separate_extensions.proper).union
    (separate_extensions.sublist (List.filter_sublist.map _)).proper

/-- So do those of every version. -/
theorem separate_ages : ∀ age ∈ ages, separateFrom 0 age.2 = true := by
  decide +kernel

theorem proper_upToAge {version : String} {s : CharSet} (h : upToAge? version = some s) : s.Proper := by
  rw [upToAge?] at h
  obtain ⟨-, h⟩ := Option.ite_none_right_eq_some.mp h
  cases h
  refine (foldl_union (fun age hage => proper_ofRanges (separate_ages age ?_)) proper_empty).1
  rcases List.mem_append.mp hage with hage | hage
  · exact (List.takeWhile_sublist _).subset hage
  · exact List.mem_of_mem_filter hage

end CharSet

end Regraft.Unicode

namespace Regraft.Pattern

open Unicode (CharSet)
open Unicode.CharSet

/-! ## 3. Names

A name in a pattern is looked up in several places, one after the other: categories, scripts, ages, properties, and
classes for breaks.  Whatever it is found in is proper. -/

/-- The lists in which properties and classes for breaks are looked up. -/
def listed : List (List (List String × CharSet)) :=
  [propertyNames, graphemeBreakNames, wordBreakNames, sentenceBreakNames]

theorem proper_listed : ∀ entries ∈ listed, ∀ entry ∈ entries, entry.2.Proper := by
  simp only [listed, propertyNames, graphemeBreakNames, wordBreakNames, sentenceBreakNames,
    List.forall_mem_cons, List.not_mem_nil, false_imp_iff, implies_true, and_true,
    -- letters and case
    lowercase, uppercase, cased, alphabetic, decimal, space, caseIgnorable, changesWhenCasefolded,
    changesWhenCasemapped, changesWhenLowercased, changesWhenTitlecased, changesWhenUppercased,
    -- identifiers, marks and punctuation
    reservedSign, idStart, idContinue, xidStart, xidContinue, hexDigit, ideographic, graphemeExtend, graphemeBase,
    defaultIgnorable, dash, terminalPunctuation, math,
    -- breaks
    lineFeed, carriageReturn, widthJoiner, joiners, graphemeTail, graphemeControl, spacingMark, graphemePrepend,
    openSyllable, closedSyllable, wordTail, wordFormat, wordNumber, wordLetter, sentenceTail, sentenceNumber,
    sentenceFormat, sentenceSpace, sentenceLower, sentenceUpper, sentenceLetter, sentenceEnd, closing]
  repeat' with_reducible apply And.intro
  all_goals repeat' with_reducible first
    | apply Proper.union
    | apply Proper.inter
    | apply Proper.sdiff
    | apply Proper.complement
    | apply proper_ofCategories
    | apply proper_changedBy
    | apply proper_ofScript
    | apply proper_single
    | apply proper_settled
    | apply proper_ofRanges
  all_goals decide +kernel

theorem proper_lookUp {name : String} {entries : List (List String × CharSet)} (hentries : entries ∈ listed)
    {s : CharSet} (h : lookUp name entries = some s) : s.Proper := by
  obtain ⟨entry, hentry, rfl⟩ := Option.map_eq_some_iff.mp h
  exact proper_listed entries hentries entry (List.mem_of_find?_eq_some hentry)

theorem proper_categoryNamed {name : String} {s : CharSet} (h : categoryNamed? name = some s) : s.Proper := by
  unfold categoryNamed? at h
  split at h
  · obtain rfl := Option.some.inj h
    exact proper_all
  · obtain rfl := Option.some.inj h
    exact proper_range _ _
  · obtain rfl := Option.some.inj h
    exact (proper_ofCategories [.cn]).complement
  · obtain ⟨categories, -, rfl⟩ := Option.map_eq_some_iff.mp h
    exact proper_ofCategories categories

theorem proper_scriptNamed {name : String} {s : CharSet} (h : scriptNamed? name = some s) : s.Proper := by
  obtain ⟨script, hscript, rfl⟩ := Option.map_eq_some_iff.mp h
  exact proper_script hscript

theorem proper_propertyNamed {name : String} {s : CharSet} (h : propertyNamed? name = some s) : s.Proper := by
  rw [propertyNamed?, Option.or_eq_some_iff, Option.or_eq_some_iff] at h
  rcases h with h | ⟨-, h | ⟨-, h⟩⟩
  · exact proper_lookUp (List.mem_cons_self) h
  · exact proper_categoryNamed h
  · exact proper_scriptNamed h

theorem proper_propertyOf {kind name : String} {s : CharSet} (h : propertyOf? kind name = some s) : s.Proper := by
  unfold propertyOf? at h
  split at h
  · exact proper_categoryNamed h
  · exact proper_categoryNamed h
  · exact proper_scriptNamed h
  · exact proper_scriptNamed h
  · obtain ⟨script, hscript, rfl⟩ := Option.map_eq_some_iff.mp h
    exact proper_usedIn hscript
  · obtain ⟨script, hscript, rfl⟩ := Option.map_eq_some_iff.mp h
    exact proper_usedIn hscript
  · obtain ⟨age, -, h⟩ := Option.bind_eq_some_iff.mp h
    exact proper_upToAge h
  all_goals first
    | exact proper_lookUp (by simp [listed]) h
    | cases h

/-- What a pattern names between braces is a proper set. -/
theorem proper_propertyClass {body : List Char} {s : CharSet} {unequal : Bool}
    (h : propertyClass? body = some (s, unequal)) : s.Proper := by
  unfold propertyClass? at h
  dsimp only at h
  split at h <;> obtain ⟨set, hset, heq⟩ := Option.map_eq_some_iff.mp h <;> cases heq
  · exact proper_propertyOf hset
  · exact proper_propertyOf hset
  · exact proper_propertyOf hset
  · exact proper_propertyNamed hset

theorem proper_word : word.Proper := by
  have halphabetic : alphabetic.Proper :=
    proper_listed propertyNames List.mem_cons_self (["alpha", "alphabetic"], alphabetic) (.tail _ (.head _))
  have hjoiners : (ofRanges Unicode.joinControl).Proper := proper_ofRanges (by decide +kernel)
  exact (halphabetic.union (proper_ofCategories [.mn, .mc, .me, .nd, .pc])).union hjoiners

theorem proper_asciiClass {name : String} {s : CharSet} (h : AsciiClass.named? name = some s) : s.Proper := by
  unfold AsciiClass.named? at h
  split at h <;> cases h <;> decide +kernel

end Regraft.Pattern
