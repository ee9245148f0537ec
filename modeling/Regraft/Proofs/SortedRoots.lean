import Regraft.Proofs.ReadPrologs
import Regraft.Proofs.SortedTags
/-!
# Documents in which only the root tag is sorted

The root tag is searched for from bracket to bracket, whether these are in comments and instructions or not.  So the tag
that is sorted is the root tag if no bracket of the prolog opens a tag (`OpensNoTag`).  Otherwise the tag that is found
begins in the prolog.  It either ends there (`RootTag.find?_eq_some`), and then it must be sorted already
(`sorted_of_changesOnlyTag`), or it leaves a quote open and takes in the root tag too (`exists_not_changesOnlyTag`).

`only_root_sorted` puts the cases together, for every document that is read.
-/

namespace Regraft.Text

open Xml (Document)

variable {s prolog tag : List Char}

/-! ## 1. What is left of a tag

The text between two brackets and what sorting makes of it.  If it is to be left as it is, it must be in its sorted
form. -/

/-- The attribute that has begun, as far as it goes. -/
def AttributeState.begun : AttributeState → List Char
  | .between => []
  | .within reversed _ => reversed.reverse

/-- Nothing gets into attributes that is not of the text, and nothing changes its place. -/
theorem splitAttributes_sublist (state : AttributeState) (s : List Char) :
    (splitAttributes state s).flatten.Sublist (state.begun ++ s) := by
  -- What has begun is counted as part of the text: it is moved from one side to the other with each character.
  induction s generalizing state with
  | nil => simp [splitAttributes]
  | cons c s ih =>
    cases state with
    | between =>
      rw [splitAttributes]
      split
      · exact (ih .between).cons c
      · exact ih (.within [c] none)
    | within reversed quote =>
      have hmore (quote : Option Char) : (AttributeState.within (c :: reversed) quote).begun ++ s =
          (AttributeState.within reversed quote).begun ++ c :: s := by
        simp [AttributeState.begun]
      cases quote with
      | none =>
        rw [splitAttributes, ← hmore]
        exact ih _
      | some q =>
        rw [splitAttributes]
        split
        · rw [List.flatten_cons, ← hmore (some q)]
          exact (ih .between).append_left _
        · rw [← hmore]
          exact ih _

theorem trimEndBy_begins (p : Char → Bool) (s : List Char) : trimEndBy p s <+: s := by
  have hsuffix : s.reverse.dropWhile p <:+ s.reverse := List.dropWhile_suffix _
  rw [trimEndBy, ← List.reverse_suffix, List.reverse_reverse]
  exact hsuffix

/-- The parts of a tag are of the tag, in their order. -/
theorem parts_sublist (inside : List Char) : ((TagParts.ofInside inside).name ++
    (TagParts.ofInside inside).attributes.flatMap String.toList).Sublist inside := by
  have hparts (t : List Char) : (t.takeWhile (!Unicode.isBlank ·) ++
      ((splitAttributes .between (t.dropWhile (!Unicode.isBlank ·))).map String.ofList).flatMap
        String.toList).Sublist t := by
    have hflatten (l : List (List Char)) : (l.map String.ofList).flatMap String.toList = l.flatten := by
      simp [List.flatMap_def]
    have hrest := (splitAttributes_sublist .between (t.dropWhile (!Unicode.isBlank ·))).append_left
      (t.takeWhile (!Unicode.isBlank ·))
    rw [hflatten]
    rwa [AttributeState.begun, List.nil_append, List.takeWhile_append_dropWhile] at hrest
  rw [TagParts.ofInside]
  refine (hparts _).trans ((trimEndBy_begins _ _).sublist.trans ?_)
  split
  · exact List.dropLast_sublist inside
  · exact .refl inside

/-- Sorting adds no opening bracket. -/
theorem count_sorted_le (inside : List Char) : (TagParts.ofInside inside).sorted.count '<' ≤ inside.count '<' := by
  have hspaces (l : List String) :
      (l.flatMap fun a => ' ' :: a.toList).count '<' = (l.flatMap String.toList).count '<' := by
    induction l with
    | nil => rfl
    | cons a l ih => simp [ih]
  have hsorted (t : TagParts) : t.sorted.count '<' = (t.name ++ t.attributes.flatMap String.toList).count '<' := by
    have hslash : (if t.isEmpty then ['/'] else []).count '<' = 0 := by split <;> rfl
    have hperm := ((List.mergeSort_perm t.attributes (· ≤ ·)).flatMap_right String.toList).count_eq '<'
    rw [TagParts.sorted, List.count_append, List.count_append, hslash, hspaces, hperm, List.count_append, Nat.add_zero]
  rw [hsorted]
  exact (parts_sublist inside).count_le '<'

/-- An open quote is one of the two. -/
def AttributeState.IsQuoted : AttributeState → Prop
  | .between => True
  | .within _ quote => IsQuote quote

/-- Attributes end with quotes. -/
theorem exists_quote_of_mem {state : AttributeState} (hstate : state.IsQuoted) {a : List Char}
    (h : a ∈ splitAttributes state s) : ∃ u q, (q = '"' ∨ q = '\'') ∧ a = u ++ [q] := by
  induction s generalizing state with
  | nil =>
    rw [splitAttributes] at h
    cases h
  | cons c s ih =>
    cases state with
    | between =>
      rw [splitAttributes] at h
      split at h
      · exact ih hstate h
      · have hbegun : (AttributeState.within [c] none).IsQuoted := fun q hq => by cases hq
        exact ih hbegun h
    | within reversed quote =>
      cases quote with
      | none =>
        rw [splitAttributes] at h
        refine ih ?_ h
        intro q hq
        split at hq
        · rename_i hc
          cases hq
          exact hc
        · cases hq
      | some q =>
        rw [splitAttributes] at h
        split at h
        · rename_i hc
          rcases List.mem_cons.mp h with rfl | h
          · exact ⟨reversed.reverse, c, hc ▸ hstate q rfl, List.reverse_cons⟩
          · have hended : AttributeState.between.IsQuoted := trivial
            exact ih hended h
        · have hbegun : (AttributeState.within (c :: reversed) (some q)).IsQuoted := hstate
          exact ih hbegun h

/-- Sorting leaves no white space at the end of a tag. -/
theorem getLast?_sorted (inside : List Char) :
    ∀ c ∈ ('<' :: (TagParts.ofInside inside).sorted).getLast?, Unicode.isBlank c = false := by
  have hattributes : ∀ a ∈ (TagParts.ofInside inside).attributes,
      ∃ u q, (q = '"' ∨ q = '\'') ∧ a.toList = u ++ [q] := by
    intro a ha
    obtain ⟨chars, hchars, rfl⟩ := List.mem_map.mp ha
    have hstart : AttributeState.between.IsQuoted := trivial
    rw [String.toList_ofList]
    exact exists_quote_of_mem hstart hchars
  have hlaid (l : List String) (hl : ∀ a ∈ l, ∃ u q, (q = '"' ∨ q = '\'') ∧ a.toList = u ++ [q]) :
      ∀ c ∈ (l.flatMap fun a => ' ' :: a.toList).getLast?, Unicode.isBlank c = false := by
    induction l with
    | nil => simp
    | cons a l ih =>
      refine forall_getLast?_append (fun c hc => ?_) (ih fun b hb => hl b (List.mem_cons_of_mem _ hb))
      obtain ⟨u, q, hq, ha⟩ := hl a List.mem_cons_self
      obtain rfl : q = c := by simpa [ha, List.getLast?_cons] using hc
      rcases hq with rfl | rfl
      · decide
      · decide
  rw [TagParts.sorted, ← List.singleton_append, ← List.append_assoc, ← List.append_assoc]
  refine forall_getLast?_append (forall_getLast?_append (forall_getLast?_append (fun c hc => ?_) fun c hc => ?_) ?_)
    fun c hc => ?_
  · obtain rfl : '<' = c := by simpa using hc
    decide
  · have hvisible := List.mem_takeWhile_imp (List.mem_of_getLast? hc)
    simpa using hvisible
  · exact hlaid _ fun a ha => hattributes a (List.mem_mergeSort.mp ha)
  · split at hc
    · obtain rfl : '/' = c := by simpa using hc
      decide
    · cases hc

/-! ## 2. Tags in prologs

A bracket in a comment or in an instruction is taken for the beginning of the root tag, if the character behind it does
not exclude that.  The tag that is found then ends at the first bracket that is in no quotes, in the prolog or behind
it. -/

/-- A tag that is found in a text is found in every text that goes on. -/
theorem RootTag.find?_eq_some {t : RootTag} (h : RootTag.find? s = some t) :
    s = t.before ++ '<' :: (t.inside ++ '>' :: t.after) ∧
      ∀ rest, RootTag.find? (s ++ rest) = some { t with after := t.after ++ rest } := by
  obtain ⟨⟨before, behind⟩, hbegin, h⟩ := Option.bind_eq_some_iff.mp h
  obtain ⟨⟨inside, after⟩, hend, h⟩ := Option.bind_eq_some_iff.mp h
  cases h
  obtain ⟨rfl, hbegins⟩ := splitRootStart_eq_some hbegin
  obtain ⟨rfl, hends⟩ := splitTagEnd_eq_some hend
  refine ⟨rfl, fun rest => ?_⟩
  rw [RootTag.find?_of_begins (hbegins (by simp) rest), hends, Option.map_some]

theorem sortRootAttributes_of_find {t : RootTag} (h : RootTag.find? s = some t) :
    sortRootAttributes (.ofList s) = documentText t.before (TagParts.ofInside t.inside).sorted t.after := by
  rw [sortRootAttributes, String.toList_ofList, h]
  simp [documentText]

/-- Sorting changes nothing outside the root tag. -/
def ChangesOnlyTag (prolog tag after : List Char) : Prop :=
  ∃ tag', sortRootAttributes (documentText prolog tag after) = documentText prolog tag' after

/-- No tag is found in the prolog, or one that is sorted already. -/
def IsSpared (prolog : List Char) : Prop :=
  OpensNoTag prolog ∨ ∃ t, RootTag.find? prolog = some t ∧ (TagParts.ofInside t.inside).sorted = t.inside

/-- Behind a prolog that opens no tag, the root tag is sorted. -/
theorem OpensNoTag.sortRootAttributes (h : OpensNoTag prolog) (htag : IsStartTag tag) (after : List Char) :
    Text.sortRootAttributes (documentText prolog tag after) =
      documentText prolog (TagParts.ofInside tag).sorted after :=
  sortRootAttributes_of_find (h.find?_append htag after)

/-- If a tag in the prolog is sorted already, nothing changes. -/
theorem sortRootAttributes_of_sorted {t : RootTag} (h : RootTag.find? prolog = some t)
    (hsorted : (TagParts.ofInside t.inside).sorted = t.inside) (tag after : List Char) :
    sortRootAttributes (documentText prolog tag after) = documentText prolog tag after := by
  obtain ⟨hprolog, hrest⟩ := RootTag.find?_eq_some h
  rw [documentText, sortRootAttributes_of_find (hrest _), hsorted, documentText, hprolog]
  simp

/-- The shortest start tag. -/
theorem isStartTag_r : IsStartTag ['r'] := by
  have hspace : Xml.Token.AllSpace [] := fun c hc => absurd hc List.not_mem_nil
  exact .mk (show Xml.isName "r" = true by decide) .nil hspace (.inl rfl)

/-- Texts are divided in one way only at the last place of a character. -/
theorem eq_of_append_cons {c : Char} {s s' u u' : List Char} (hu : c ∉ u) (hu' : c ∉ u')
    (h : s ++ c :: u = s' ++ c :: u') : s = s' := by
  have hreverse : u.reverse ++ c :: s.reverse = u'.reverse ++ c :: s'.reverse := by
    simpa using congrArg List.reverse h
  have hsplit := splitOnce_append (mt List.mem_reverse.mp hu) s.reverse
  rw [hreverse, splitOnce_append (mt List.mem_reverse.mp hu'), Option.some.injEq, Prod.mk.injEq] at hsplit
  exact List.reverse_inj.mp hsplit.2.symm

/-- A tag in the prolog that is not sorted yet changes. -/
theorem sorted_of_changesOnlyTag {t : RootTag} (h : RootTag.find? prolog = some t)
    (hchanges : ChangesOnlyTag prolog ['r'] "</r>".toList) : (TagParts.ofInside t.inside).sorted = t.inside := by
  obtain ⟨hprolog, hrest⟩ := RootTag.find?_eq_some h
  obtain ⟨tag', htag'⟩ := hchanges
  rw [documentText, sortRootAttributes_of_find (hrest _), documentText, documentText, String.ofList_inj] at htag'
  have hlaid : (t.before ++ '<' :: ((TagParts.ofInside t.inside).sorted ++ '>' :: t.after) ++ '<' :: ['r']) ++
      "></r>".toList = (prolog ++ '<' :: tag') ++ "></r>".toList := by
    simpa using htag'
  replace hlaid := List.append_cancel_right hlaid
  -- There are no more brackets before the root tag than there were, so that none is left for the tag itself.
  have hnot : '<' ∉ tag' := by
    have hcount := congrArg (List.count '<') hlaid
    have hle := count_sorted_le t.inside
    rw [hprolog] at hcount
    simp at hcount
    rw [← List.count_eq_zero]
    omega
  have hsame := eq_of_append_cons (by decide) hnot hlaid
  rw [hprolog] at hsame
  exact List.append_cancel_right (List.cons.inj (List.append_cancel_left hsame)).2

/-- A tag of the prolog that does not end there takes in what follows, up to the same quote in the content. -/
theorem exists_not_changesOnlyTag (hprolog : IsProlog prolog) (hopens : ¬ OpensNoTag prolog)
    (hnone : RootTag.find? prolog = none) :
    ∃ q, (q = '"' ∨ q = '\'') ∧ ¬ ChangesOnlyTag prolog ['r'] ([q, ' ', '>'] ++ "</r>".toList) := by
  cases hbegin : splitRootStart prolog with
  | none => exact absurd (splitRootStart_eq_none.mp hbegin) hopens
  | some p =>
    obtain ⟨before, behind⟩ := p
    obtain ⟨heq, hbegins⟩ := splitRootStart_eq_some hbegin
    have hend : splitTagEnd none behind = none := by
      rwa [RootTag.find?_of_begins hbegin, Option.map_eq_none_iff] at hnone
    obtain ⟨q, hq, hleads⟩ := hprolog.exists_openQuote heq hend
    have hne : behind ≠ [] := by
      rintro rfl
      have hnil := hleads ['>']
      rcases hq with rfl | rfl
      · simp [splitTagEnd] at hnil
      · simp [splitTagEnd] at hnil
    have hquoted : splitTagEnd (some q) (['<', 'r', '>', q, ' '] ++ "></r>".toList) =
        some (['<', 'r', '>', q, ' '], "</r>".toList) := by
      rcases hq with rfl | rfl
      · rfl
      · rfl
    have hfound : RootTag.find? (prolog ++ '<' :: (['r'] ++ '>' :: ([q, ' ', '>'] ++ "</r>".toList))) =
        some ⟨before, behind ++ ['<', 'r', '>', q, ' '], "</r>".toList⟩ := by
      have hrest : '<' :: (['r'] ++ '>' :: ([q, ' ', '>'] ++ "</r>".toList)) =
          ['<', 'r', '>', q, ' '] ++ "></r>".toList := rfl
      rw [hrest, RootTag.find?_of_begins (hbegins hne _), hleads, hquoted]
      rfl
    refine ⟨q, hq, ?_⟩
    rintro ⟨tag', htag'⟩
    rw [documentText, sortRootAttributes_of_find hfound, documentText, documentText, String.ofList_inj] at htag'
    have hlaid : (before ++ '<' :: (TagParts.ofInside (behind ++ ['<', 'r', '>', q, ' '])).sorted) ++ "></r>".toList =
        (prolog ++ '<' :: (tag' ++ ['>', q, ' '])) ++ "></r>".toList := by
      simpa using htag'
    -- What precedes the rest ended with a blank, and ends with the sorted tag now.
    have hlast := congrArg List.getLast? (List.append_cancel_right hlaid)
    rw [List.getLast?_append_of_ne_nil _ (List.cons_ne_nil _ _),
      List.getLast?_append_of_ne_nil _ (List.cons_ne_nil _ _)] at hlast
    have hblank := getLast?_sorted (behind ++ ['<', 'r', '>', q, ' ']) ' ' (hlast.trans (by simp [List.getLast?_cons]))
    exact absurd hblank (by decide)

/-- A prolog that is not spared changes before a root with some text in it. -/
theorem exists_content_of_not_isSpared (hprolog : IsProlog prolog) (h : ¬ IsSpared prolog) :
    ∃ content, '<' ∉ content ∧ '&' ∉ content ∧ ¬ ChangesOnlyTag prolog ['r'] (content ++ "</r>".toList) := by
  obtain ⟨hopens, hsorted⟩ := not_or.mp h
  cases hfind : RootTag.find? prolog with
  | none =>
    obtain ⟨q, hq, hnot⟩ := exists_not_changesOnlyTag hprolog hopens hfind
    refine ⟨[q, ' ', '>'], ?_, ?_, hnot⟩
    · rcases hq with rfl | rfl
      · decide
      · decide
    · rcases hq with rfl | rfl
      · decide
      · decide
  | some t =>
    exact ⟨[], List.not_mem_nil, List.not_mem_nil, fun hchanges =>
      hsorted ⟨t, hfind, sorted_of_changesOnlyTag hfind hchanges⟩⟩

/-! ## 3. Documents

The cases put together, with a root that shows the change where there is one. -/

/-- **Only the root tag is sorted.**  A text that is read as a document has a prolog, a root tag and what follows.  If
the prolog opens no tag, the root tag is sorted, and nothing else; if the tag that is found in the prolog is sorted
already, nothing changes at all; every other prolog is changed before some root. -/
theorem only_root_sorted (text : String) :
    (∀ document, Document.read text = .ok document →
      ∃ prolog tag after, IsProlog prolog ∧ IsStartTag tag ∧ text = documentText prolog tag after) ∧
    ∀ prolog tag after, IsProlog prolog → IsStartTag tag → text = documentText prolog tag after →
      (OpensNoTag prolog → sortRootAttributes text = documentText prolog (TagParts.ofInside tag).sorted after) ∧
      (IsSpared prolog → ∃ tag', sortRootAttributes text = documentText prolog tag' after) ∧
      (¬ IsSpared prolog → IsStartTag ['r'] ∧
        ∃ content, '<' ∉ content ∧ '&' ∉ content ∧ ¬ ChangesOnlyTag prolog ['r'] (content ++ "</r>".toList)) := by
  refine ⟨fun document => exists_documentText, ?_⟩
  rintro prolog tag after hprolog htag rfl
  refine ⟨fun hopens => hopens.sortRootAttributes htag after, ?_, fun hnot => ?_⟩
  · rintro (hopens | ⟨t, hfind, hsorted⟩)
    · exact ⟨_, hopens.sortRootAttributes htag after⟩
    · exact ⟨tag, sortRootAttributes_of_sorted hfind hsorted tag after⟩
  · exact ⟨isStartTag_r, exists_content_of_not_isSpared hprolog hnot⟩

/-- What is read as one token, and is no run of text, is markup. -/
theorem isMarkup_of_next {token : Xml.Token} (hs : s ≠ []) (h : Xml.Token.next? s = some (token, []))
    (htoken : ∀ raw, token ≠ .text raw) : Xml.Token.IsMarkup s token := by
  rcases Xml.Token.next_sound hs h with ⟨u, rfl, hu⟩ | ⟨raw, -, -, -, rfl⟩
  · rwa [List.append_nil]
  · exact absurd rfl (htoken raw)

/-- Two attributes that are not in order. -/
def exchangedTag : List Char := "x b=\"2\" a=\"1\"/".toList

theorem isStartTag_exchangedTag : IsStartTag exchangedTag := by
  have hnext : Xml.Token.next? ('<' :: (exchangedTag ++ ['>'])) =
      some (.startTag ⟨"", "x"⟩ [⟨⟨"", "b"⟩, ['2']⟩, ⟨⟨"", "a"⟩, ['1']⟩] true, []) := by decide +kernel
  obtain ⟨tag, htag, heq⟩ := (isMarkup_of_next (by simp) hnext nofun).exists_startTag
  obtain rfl := List.append_cancel_right (List.cons.inj heq).2
  exact htag

theorem mergeSort_exchanged {a b : String} (h : b ≤ a) : [a, b].mergeSort (· ≤ ·) = [b, a] :=
  ((List.mergeSort_perm ..).trans (.swap ..)).eq_of_pairwise (fun _ _ _ _ => String.le_antisymm)
    (WrittenTag.pairwise_sorted _) (by simp [h])

/-- A declaration, and a comment and an instruction with brackets and quotes in them. -/
def quotingProlog : List Char :=
  "<?xml version=\"1.0\"?>".toList ++ "<!-- a > \"b -->".toList ++ "<?p '>?>".toList ++ ['\n']

theorem isProlog_quotingProlog : IsProlog quotingProlog := by
  have hends : ¬ "?>".toList <:+: " version=\"1.0\"".toList :=
    (Xml.Token.splitAtWord_eq_none (by decide)).mp (by decide)
  have hcomment := IsMisc.comment (isMarkup_of_next (by decide)
    (show Xml.Token.next? "<!-- a > \"b -->".toList = some (.comment " a > \"b ".toList, []) by decide +kernel) nofun)
  have hinstruction := IsMisc.instruction (isMarkup_of_next (by decide)
    (show Xml.Token.next? "<?p '>?>".toList = some (.instruction ['p'] "'>".toList, []) by decide +kernel) nofun)
  exact (((IsProlog.start (.inl rfl) (.inr (.mk rfl hends))).append hcomment).append hinstruction).append (.space rfl)

theorem quotingProlog_only_root_sorted :
    documentText quotingProlog exchangedTag [] =
      "<?xml version=\"1.0\"?><!-- a > \"b --><?p '>?>\n<x b=\"2\" a=\"1\"/>" ∧
    (∃ prolog tag after, IsProlog prolog ∧ IsStartTag tag ∧
      documentText quotingProlog exchangedTag [] = documentText prolog tag after) ∧
    sortRootAttributes (documentText quotingProlog exchangedTag []) =
      "<?xml version=\"1.0\"?><!-- a > \"b --><?p '>?>\n<x a=\"1\" b=\"2\"/>" := by
  have hopens : OpensNoTag quotingProlog := splitRootStart_eq_none.mp (by decide)
  have hparts : TagParts.ofInside exchangedTag = ⟨['x'], ["b=\"2\"", "a=\"1\""], true⟩ := by rfl
  obtain ⟨document, hread⟩ : ∃ document, Document.read (documentText quotingProlog exchangedTag []) = .ok document :=
    ⟨_, by rfl⟩
  obtain ⟨hdivided, hsorts⟩ := only_root_sorted (documentText quotingProlog exchangedTag [])
  refine ⟨by decide, hdivided document hread, ?_⟩
  rw [(hsorts quotingProlog exchangedTag [] isProlog_quotingProlog isStartTag_exchangedTag rfl).1 hopens, hparts,
    TagParts.sorted, mergeSort_exchanged (by decide)]
  decide

/-- An instruction with a tag in it that is not sorted. -/
def taggedProlog : List Char := "<?pi <x c=\"2\" b=\"1\">?>".toList

/-- The tag in the instruction is sorted, and the root tag is not. -/
theorem taggedProlog_changed :
    IsProlog taggedProlog ∧ IsStartTag exchangedTag ∧
    documentText taggedProlog exchangedTag [] = "<?pi <x c=\"2\" b=\"1\">?><x b=\"2\" a=\"1\"/>" ∧
    (Document.read (documentText taggedProlog exchangedTag [])).isOk = true ∧
    sortRootAttributes (documentText taggedProlog exchangedTag []) =
      "<?pi <x b=\"1\" c=\"2\">?><x b=\"2\" a=\"1\"/>" ∧
    ¬ ChangesOnlyTag taggedProlog exchangedTag [] := by
  have hmarkup := isMarkup_of_next (by decide)
    (show Xml.Token.next? taggedProlog = some (.instruction "pi".toList "<x c=\"2\" b=\"1\">".toList, [])
      by decide +kernel) nofun
  have hfind : RootTag.find? (taggedProlog ++ '<' :: (exchangedTag ++ ['>'])) =
      some ⟨"<?pi ".toList, "x c=\"2\" b=\"1\"".toList, "?><x b=\"2\" a=\"1\"/>".toList⟩ := by rfl
  have hparts : TagParts.ofInside "x c=\"2\" b=\"1\"".toList = ⟨['x'], ["c=\"2\"", "b=\"1\""], false⟩ := by rfl
  have hsorted : sortRootAttributes (documentText taggedProlog exchangedTag []) =
      "<?pi <x b=\"1\" c=\"2\">?><x b=\"2\" a=\"1\"/>" := by
    rw [documentText, sortRootAttributes_of_find hfind, hparts, TagParts.sorted, mergeSort_exchanged (by decide)]
    decide
  refine ⟨(IsProlog.start (.inl rfl) (.inl rfl)).append (.instruction hmarkup), isStartTag_exchangedTag, by decide,
    by decide +kernel, hsorted, ?_⟩
  rintro ⟨tag', htag'⟩
  rw [hsorted, documentText] at htag'
  have hbegins : taggedProlog <+: "<?pi <x b=\"1\" c=\"2\">?><x b=\"2\" a=\"1\"/>".toList := by
    rw [htag', String.toList_ofList]
    exact List.prefix_append _ _
  exact absurd hbegins (by decide)

/-! ## Summary

**What is established.**  A document that is read has a prolog, a root tag and what follows, and prologs are of three
kinds.  If one opens no tag, exactly the root tag is sorted.  If the tag that it opens is sorted already, nothing is
changed.  And any other is changed itself, at least in front of some root.

**What is not.**  A prolog of the last kind is not claimed to be changed in front of every root: quotes in the root tag
may hide its end from the search. -/

end Regraft.Text
