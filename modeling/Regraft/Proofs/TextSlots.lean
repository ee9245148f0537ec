import Regraft.Proofs.Contexts
import Regraft.Proofs.FragmentPlacing
import Regraft.Proofs.NamesAlike
import Regraft.Proofs.Rendering
import Regraft.Proofs.Skeletons
/-!
# Slots in text

A slot of a template stands in text if what comes before it is divided into tokens on its own, with the references in it
closed (`Template.SlotsInText`).  Escaped values in such slots bring no markup: a fragment that can be placed with all
values empty is placed with all others, the skeleton of what is placed is the same, and an element that holds one slot
alone holds the value of it (`Template.values_placed`).

There is one exception, which is the reason for `LeavesEnds`.  Escaping has no part in brackets, so a value `]]` before
a `>` of the template makes the end of a section, and such a text is read as no fragment at all.
-/

namespace Regraft

open Xml (Context Node RawName Scope Tag Token)
open Xml.Reader (Content IsContent State Uniform)

namespace Template

/-! ## 1. Values in the slots

A template is a list of literals and slots.  What it makes of values is cut at a segment by cutting the values with it,
if there are as many before the cut as slots. -/

/-- Every slot stands in text, where tokens and references are closed. -/
def SlotsInText (segments : List Segment) : Prop :=
  ∀ before after, segments = before ++ .slot :: after → ∃ ms, Token.Marks (fill before []).toList ms

/-- No value ends in a bracket where the template goes on with what ends a section after it. -/
def LeavesEnds : List Segment → List String → Prop
  | [], _ => True
  | .literal _ :: rest, values => LeavesEnds rest values
  | .slot :: _, [] => True
  | .slot :: rest, value :: values =>
    (Token.EndsSection (fill rest []).toList → value.toList.getLast? ≠ some ']') ∧ LeavesEnds rest values

theorem fill_append (before after : List Segment) {values : List String} (hcount : values.length = before.count .slot)
    (more : List String) : fill (before ++ after) (values ++ more) = fill before values ++ fill after more := by
  induction before generalizing values with
  | nil =>
    obtain rfl := List.eq_nil_of_length_eq_zero hcount
    simp [fill]
  | cons segment before ih =>
    cases segment with
    | literal text =>
      rw [List.cons_append, fill, fill, ih (by simpa using hcount), String.append_assoc]
    | slot =>
      cases values with
      | nil => simp at hcount
      | cons value values =>
        rw [List.cons_append, List.cons_append, fill, fill, ih (by simpa using hcount), String.append_assoc]

/-- Without values the slots stay empty. -/
theorem fill_append_nil (before after : List Segment) :
    fill (before ++ after) [] = fill before [] ++ fill after [] := by
  induction before with
  | nil => simp [fill]
  | cons segment before ih =>
    cases segment with
    | literal text => rw [List.cons_append, fill, fill, ih, String.append_assoc]
    | slot => rw [List.cons_append, fill, fill, ih]

/-- Empty values leave the slots empty. -/
theorem fill_empty (segments : List Segment) (n : Nat) : fill segments (List.replicate n "") = fill segments [] := by
  induction segments generalizing n with
  | nil => rfl
  | cons segment segments ih =>
    cases segment with
    | literal text => rw [fill, fill, ih]
    | slot =>
      cases n with
      | zero => rfl
      | succ n =>
        rw [List.replicate_succ, fill, fill, ih, String.empty_append]

/-! ## 2. Where a section would end

Escaping takes the brackets out of a value, so that a value begins no markup and ends none.  There is one exception,
which is an end without a bracket of its own kind: `]]>` may not stand in text, and its last character is not escaped
where the template has it.  A value that ends in two closing brackets before such a character, or a bracket in a value
and one in the template, completes the word.  `LeavesEnds` excludes that and nothing else. -/

theorem greater_prefix_append {s t : List Char} : ['>'] <+: s ++ t ↔ ['>'] <+: s ∨ s = [] ∧ ['>'] <+: t := by
  cases s with
  | nil => simp
  | cons c s => simp [List.cons_prefix_cons]

/-- The end of a section stands in one of two texts, or across the border of both. -/
theorem endsSection_append {s t : List Char} :
    Token.EndsSection (s ++ t) ↔ Token.EndsSection s ∨ s = [']'] ∧ ['>'] <+: t ∨ s = [] ∧ Token.EndsSection t := by
  unfold Token.EndsSection
  rcases s with _ | ⟨c, _ | ⟨d, s⟩⟩
  · simp
  · simp [List.cons_prefix_cons, eq_comm]
  · simp [List.cons_prefix_cons]

/-- Such a bracket is not in an escaped value. -/
theorem greater_of_fill {segments : List Segment} {values : List String}
    (h : ['>'] <+: (fill segments (values.map Text.escape)).toList) : ['>'] <+: (fill segments []).toList := by
  induction segments generalizing values with
  | nil => exact h
  | cons segment segments ih =>
    cases segment with
    | literal text =>
      rw [fill, String.toList_append, greater_prefix_append] at h ⊢
      exact h.imp_right fun h => ⟨h.1, ih h.2⟩
    | slot =>
      cases values with
      | nil => exact h
      | cons value values =>
        rw [List.map_cons, fill, String.toList_append, greater_prefix_append, Text.escape, String.toList_ofList] at h
        rcases h with h | ⟨-, h⟩
        · exact absurd (h.subset List.mem_cons_self) (Text.greater_not_mem_escapeChars value.toList)
        · exact ih h

/-- What ends a section is in the template, since no value begins to. -/
theorem endsSection_of_fill {segments : List Segment} {values : List String} (hends : LeavesEnds segments values)
    (h : Token.EndsSection (fill segments (values.map Text.escape)).toList) :
    Token.EndsSection (fill segments []).toList := by
  induction segments generalizing values with
  | nil => exact h
  | cons segment segments ih =>
    cases segment with
    | literal text =>
      rw [fill, String.toList_append, endsSection_append] at h ⊢
      exact h.imp_right fun h => h.imp (fun h => ⟨h.1, greater_of_fill h.2⟩) fun h => ⟨h.1, ih hends h.2⟩
    | slot =>
      cases values with
      | nil => exact h
      | cons value values =>
        obtain ⟨hvalue, hends⟩ := hends
        rw [List.map_cons, fill, String.toList_append, endsSection_append, Text.escape, String.toList_ofList] at h
        have hnot := Text.greater_not_mem_escapeChars value.toList
        rcases h with h | ⟨hbracket, h⟩ | ⟨-, h⟩
        · rcases h with h | h
          · exact absurd (h.subset (by simp)) hnot
          · exact absurd (h.subset (by simp)) hnot
        · have hlast : value.toList.getLast? = some ']' := Text.getLast_of_escapeChars (by rw [hbracket]; rfl)
          exact absurd hlast (hvalue (.inl (greater_of_fill h)))
        · exact ih hends h

/-- **Values in text bring no markup**: what is not a run of text is the same as with all slots empty. -/
theorem marks_fill (before : List Char) {segments : List Segment} {values : List String} {ms : List Token}
    (hslots : ∀ first after, segments = first ++ .slot :: after →
      ∃ ms, Token.Marks (before ++ (fill first []).toList) ms)
    (hmarks : Token.Marks (before ++ (fill segments []).toList) ms)
    (hxml : ∀ value ∈ values, value.toList.all Xml.isXmlChar = true) (hends : LeavesEnds segments values) :
    Token.Marks (before ++ (fill segments (values.map Text.escape)).toList) ms := by
  induction segments generalizing values before with
  | nil => exact hmarks
  | cons segment segments ih =>
    cases segment with
    | literal text =>
      rw [fill, String.toList_append, ← List.append_assoc] at hmarks ⊢
      refine ih _ (fun first after heq => ?_) hmarks hxml hends
      obtain ⟨ns, hns⟩ := hslots (.literal text :: first) after (by rw [heq]; rfl)
      rw [fill, String.toList_append, ← List.append_assoc] at hns
      exact ⟨ns, hns⟩
    | slot =>
      have hlater (first after : List Segment) (heq : segments = first ++ .slot :: after) :
          ∃ ms, Token.Marks (before ++ (fill first []).toList) ms :=
        hslots (.slot :: first) after (by rw [heq]; rfl)
      cases values with
      | nil => exact hmarks
      | cons value values =>
        obtain ⟨hvalue, hends⟩ := hends
        -- The slots after this one are filled first, so that only one value is put in here.
        have hrest := ih _ hlater hmarks (fun v hv => hxml v (List.mem_cons_of_mem _ hv)) hends
        obtain ⟨ns, hns⟩ := hslots [] segments rfl
        rw [fill, String.toList_empty, List.append_nil] at hns
        rw [List.map_cons, fill, String.toList_append, Text.escape, String.toList_ofList]
        exact hrest.insert hns (hxml value List.mem_cons_self) fun h => hvalue (endsSection_of_fill hends h)

/-! ## 3. Templates of fragments

Where a rendered text is read as markup is decided by its first character that is not white space.  That is a character
of the template if the template begins with a bracket, whatever the values are. -/

/-- Characters that have been gathered begin the next literal. -/
theorem exists_literal_of_gathered {reversed : List Char} (hne : reversed ≠ []) (s : List Char) :
    ∃ more segments, segmentsFrom reversed s = .literal (.ofList (reversed.reverse ++ more)) :: segments := by
  have hliteral {reversed : List Char} (hne : reversed ≠ []) :
      literalOf reversed = [.literal (.ofList (reversed.reverse ++ []))] := by
    rw [literalOf, if_neg (by simpa using hne), List.append_nil]
  fun_induction segmentsFrom reversed s with
  | case1 reversed => exact ⟨[], [], hliteral hne⟩
  | case2 reversed rest ih => exact ⟨[], .slot :: segmentsFrom [] rest, by rw [hliteral hne]; rfl⟩
  | case3 reversed rest ih =>
    obtain ⟨more, segments, heq⟩ := ih (List.cons_ne_nil _ _)
    exact ⟨'%' :: more, segments, by rw [heq]; simp⟩
  | case4 reversed c rest _ _ ih =>
    obtain ⟨more, segments, heq⟩ := ih (List.cons_ne_nil _ _)
    exact ⟨c :: more, segments, by rw [heq]; simp⟩

/-- A template that begins with a bracket makes texts that do. -/
theorem isMarkup_fill {raw : String} (h : Fragment.isMarkup raw = true) (values : List String) :
    Fragment.isMarkup (fill (parse raw).segments values) = true := by
  let blanks := raw.toList.takeWhile Unicode.isBlank
  obtain ⟨rest, hrest⟩ : ∃ rest, raw.toList.dropWhile Unicode.isBlank = '<' :: rest := by
    rw [Fragment.isMarkup, decide_eq_true_eq, List.head?_eq_some_iff] at h
    exact h
  have hraw : raw.toList = (blanks ++ ['<']) ++ rest := by
    rw [List.append_assoc, List.singleton_append, ← hrest]
    exact List.takeWhile_append_dropWhile.symm
  have hblanks : ∀ c ∈ blanks, Unicode.isBlank c = true := fun c hc => List.mem_takeWhile_imp hc
  have hpercent : '%' ∉ blanks ++ ['<'] := by
    simp only [List.mem_append, List.mem_singleton, not_or]
    exact ⟨fun hmem => absurd (hblanks _ hmem) (by decide), by decide⟩
  have hne : (blanks ++ ['<']).reverse ≠ [] := by simp
  obtain ⟨more, segments, hsegments⟩ := exists_literal_of_gathered hne rest
  have hparse : (parse raw).segments = .literal (.ofList (blanks ++ '<' :: more)) :: segments := by
    rw [parse, hraw, segmentsFrom_append hpercent, List.append_nil, hsegments]
    simp
  rw [Fragment.isMarkup, hparse, fill, String.toList_append, String.toList_ofList, List.append_assoc,
    List.dropWhile_append_of_pos hblanks]
  simp [show Unicode.isBlank '<' = false by decide]

end Template

/-! ## 4. Elements that hold one slot

Between a start tag and an end tag a value is a run of text, or nothing, and the tags are found in front of it and
behind it.  So the element that holds the slot holds the value.  Which element that is can be told in the text with
empty slots: as many start tags stand before it. -/

namespace Xml.Reader

theorem countP_markupOf (ts : List Token) :
    (Token.markupOf ts).countP Token.isStartTag = ts.countP Token.isStartTag := by
  rw [Token.markupOf, List.countP_filter]
  refine List.countP_congr fun t _ => ?_
  cases t <;> simp [Token.isStartTag, Token.isText]

end Xml.Reader

theorem Xml.Token.RunTokens.eq_valueTokens {value : String} {us : List Token}
    (h : Token.RunTokens (Text.escapeChars value.toList) us) : us = Fragment.valueTokens value := by
  rw [Fragment.valueTokens]
  by_cases hempty : value = ""
  · subst hempty
    cases h with
    | nil => rfl
    | run hrun => exact absurd rfl hrun.ne_nil
  · have hne := Text.escapeChars_ne_nil fun hnil => hempty (String.toList_eq_nil_iff.mp hnil)
    rw [if_neg hempty]
    generalize Text.escapeChars value.toList = raw at h hne
    cases h with
    | nil => exact absurd rfl hne
    | run hrun => rfl

/-- What begins with a bracket and a slash is an end tag. -/
theorem Xml.Token.IsMarkup.exists_endTag {u rest s : List Char} {t : Token} (h : Token.IsMarkup u t)
    (heq : u ++ rest = '<' :: '/' :: s) : ∃ name, t = .endTag name := by
  cases h with
  | startTag hname _ _ _ =>
    obtain ⟨c, others, rfl, hc⟩ := hname.exists_cons
    obtain rfl : c = '/' := (List.cons.inj (List.cons.inj heq).2).1
    exact absurd hc (by decide)
  | endTag _ _ => exact ⟨_, rfl⟩
  | comment _ _ _ _ => exact absurd (List.cons.inj (List.cons.inj heq).2).1 (by decide)
  | literal _ _ => exact absurd (List.cons.inj (List.cons.inj heq).2).1 (by decide)
  | instruction _ => exact absurd (List.cons.inj (List.cons.inj heq).2).1 (by decide)

/-- Where a value stands alone between two tags, the tokens are those before, the start tag, the value, an end tag, and
others. -/
theorem Xml.Token.scan_of_value {outer tag rest : List Char} {value : String} {ms ts : List Token} {name : RawName}
    {as : List Xml.RawAttribute} (hmarks : Token.Marks outer ms) (htag : Token.IsMarkup tag (.startTag name as false))
    (h : Token.scan? (outer ++ (tag ++ (Text.escapeChars value.toList ++ '<' :: '/' :: rest))) = some ts) :
    ∃ os name' later, Token.markupOf os = ms ∧
      ts = os ++ .startTag name as false :: (Fragment.valueTokens value ++ .endTag name' :: later) := by
  obtain ⟨os, hos, -, rfl⟩ := hmarks
  obtain ⟨v, rfl⟩ := htag.exists_cons
  rw [hos.scan (by simp), Token.scan_markup htag, Option.map_map] at h
  obtain ⟨ts₁, hts₁, rfl⟩ := Option.map_eq_some_iff.mp h
  obtain ⟨us, vs, hus, hvs, rfl⟩ := Token.exists_runTokens (Text.not_mem_escapeChars _) (by simp) hts₁
  obtain rfl := hus.eq_valueTokens
  rcases Token.scan_cases hvs with ⟨hnil, -⟩ | ⟨u, t, after, us, heq, hu, -, rfl⟩ | ⟨raw, after, us, heq, hraw, -⟩
  · cases hnil
  · obtain ⟨name', rfl⟩ := hu.exists_endTag heq.symm
    exact ⟨os, name', us, rfl, rfl⟩
  · obtain ⟨c, others, rfl⟩ := List.exists_cons_of_ne_nil hraw.ne_nil
    obtain rfl : '<' = c := (List.cons.inj heq).1
    exact absurd List.mem_cons_self hraw.bracket

/-- A value is kept, even if it is blank. -/
theorem Fragment.pruneContent_readText (value : String) :
    pruneContent ((readText value).any Node.isElement) (readText value) = readText value := by
  rw [readText]
  split
  · rw [pruneContent]
  · simp [pruneContent, pruneNode, Node.isElement]

/-- **An element with a value between its tags and nothing else holds the value.**  It is the element that as many start
tags are before. -/
theorem Fragment.context_of_value {s : Scope} {outer tag rest : List Char} {value : String} {ms : List Token}
    {name : RawName} {as : List Xml.RawAttribute} {nodes : List Node} (hmarks : Token.Marks outer ms)
    (htag : Token.IsMarkup tag (.startTag name as false))
    (h : IsContent s (outer ++ (tag ++ (Text.escapeChars value.toList ++ '<' :: '/' :: rest))) nodes) :
    ∃ (c : Context) (t : Tag), c.elementsBefore = ms.countP Token.isStartTag ∧
      nodes = c.fill (.element t (readText value)) := by
  obtain ⟨ts, ns, ids, hdivided, hcontent, rfl⟩ := h
  obtain ⟨os, name', later, rfl, rfl⟩ := Token.scan_of_value hmarks htag (Token.scan_eq_some.mpr hdivided)
  let outside : Xml.Reader.Opened := ⟨.plain (.bare ""), s, []⟩
  have hfold := @Content.foldlM_take _ _ _ _ _ hcontent ⟨[outside], [], []⟩ rfl rfl rfl
  rw [List.foldlM_append] at hfold
  obtain ⟨st, hst, hfold⟩ := Option.bind_eq_some_iff.mp hfold
  have hopened := Xml.Reader.opened_of_foldlM rfl hst hfold rfl
  have helements := Xml.Reader.elements_foldlM hst
  rw [List.foldlM_cons] at hfold
  obtain ⟨st₁, hst₁, hfold⟩ := Option.bind_eq_some_iff.mp hfold
  obtain ⟨t, inner, ids', -, -, rfl⟩ := (Xml.Reader.take_tag_eq_some hopened).mp hst₁
  rw [List.foldlM_append, foldlM_value rfl rfl, Option.bind_eq_bind, Option.bind_some, List.foldlM_cons] at hfold
  obtain ⟨st₂, hst₂, hfold⟩ := Option.bind_eq_some_iff.mp hfold
  obtain rfl := Xml.Reader.closed_of_take rfl hst₂
  rw [List.reverse_reverse] at hfold
  -- From here on the element stands in a context.
  have huniform := Uniform.ends (F := fun n : Unit → Node => n = fun _ => .element t (readText value)) rfl st ids'
  obtain ⟨c, n, rfl, hc, ids'', hall⟩ := huniform.exists_context (by rintro n rfl a; rfl) () hfold rfl
  refine ⟨c, t, ?_, ?_⟩
  · have hstart : State.elements ⟨[outside], [], []⟩ = 1 := rfl
    rw [Xml.Reader.countP_markupOf]
    omega
  · have hsame := congrArg State.reversed (Option.some.inj (hfold.symm.trans (hall ())))
    exact List.reverse_injective hsame

/-! ## 5. Placing values

Placing a rendered text is reading it and appending what has been read.  Both texts, that with the values and that
without them, are divided into tokens that differ in runs of text alone (`marks_fill`), so they are read into nodes
that differ in texts alone. -/

namespace Template

/-- Places what the template makes of values, which are escaped first. -/
def place (t : Template) (r : Root) (values : List String) (c : List Node) : Except Error (List Node) :=
  (t.render (values.map Text.escape)).bind fun text => Fragment.place r text c

end Template

/-- This is what a rule does with a row that is not filtered out. -/
theorem Descent.placeRow_eq {d : Descent} {row : List String} {normalized : List (Option String)} {values : List String}
    (hnormalized : d.rule.normalization.apply row = .ok normalized) (hvalues : normalized.mapM id = some values) :
    d.placeRow row = Edit.whole (d.rule.template.place d.root values) := by
  funext c
  rw [placeRow, renderRow_of_values hnormalized hvalues, Edit.whole, Template.place]
  cases d.rule.template.render (values.map Text.escape) with
  | error e => rfl
  | ok text => rfl

namespace Template

theorem place_of_fill {t : Template} {r : Root} {values : List String} (hcount : values.length = t.slots)
    (c : List Node) : t.place r values c = Fragment.place r (fill t.segments (values.map Text.escape)) c := by
  rw [place, render, if_pos (by simpa using hcount)]
  rfl

/-- No value ends in a bracket before what ends a section in a part of the template. -/
theorem LeavesEnds.of_append {before more : List Segment} {values others : List String} {outer : String}
    (hcount : values.length = before.count .slot) (houter : outer.toList <+: (fill more []).toList)
    (h : LeavesEnds (before ++ more) (values ++ others)) : LeavesEnds (before ++ [.literal outer]) values := by
  induction before generalizing values with
  | nil => trivial
  | cons segment before ih =>
    cases segment with
    | literal text => exact ih (by simpa using hcount) h
    | slot =>
      cases values with
      | nil => trivial
      | cons value values =>
        obtain ⟨hvalue, h⟩ := h
        refine ⟨fun hends => hvalue ?_, ih (by simpa using hcount) h⟩
        have hprefix : (fill (before ++ [.literal outer]) []).toList <+: (fill (before ++ more) []).toList := by
          rw [fill_append_nil, fill_append_nil, String.toList_append, String.toList_append,
            List.prefix_append_right_inj]
          simpa [fill] using houter
        exact hends.imp (fun h => h.trans hprefix) fun h => h.trans hprefix

/-- What stands before a place in the template has the same markup with values in it. -/
theorem marks_before {before more : List Segment} {values others : List String} {outer : String} {ms : List Token}
    (hslots : SlotsInText (before ++ more)) (hends : LeavesEnds (before ++ more) (values ++ others))
    (hcount : values.length = before.count .slot) (hxml : ∀ value ∈ values, value.toList.all Xml.isXmlChar = true)
    (houter : outer.toList <+: (fill more []).toList) (hmarks : Token.Marks (fill before [] ++ outer).toList ms) :
    Token.Marks (fill before (values.map Text.escape) ++ outer).toList ms := by
  have hsegments (values : List String) (hcount : values.length = before.count .slot) :
      fill (before ++ [.literal outer]) values = fill before values ++ outer := by
    have hlast := fill_append before [.literal outer] hcount []
    rw [List.append_nil] at hlast
    rw [hlast, fill, fill, String.append_empty]
  have hempty : fill (before ++ [.literal outer]) [] = fill before [] ++ outer := by
    rw [fill_append_nil, fill, fill, String.append_empty]
  rw [← hsegments _ (by simpa using hcount)]
  rw [← hempty] at hmarks
  refine marks_fill [] (fun first after heq => ?_) hmarks hxml (hends.of_append hcount houter)
  -- The last segment is no slot, so the slot is before it.
  rcases List.eq_nil_or_concat after with rfl | ⟨after, last, rfl⟩
  · obtain ⟨-, heq⟩ := List.append_inj' heq rfl
    cases heq
  · rw [List.concat_eq_append, ← List.cons_append, ← List.append_assoc] at heq
    obtain ⟨rfl, -⟩ := List.append_inj' heq rfl
    exact hslots first (after ++ more) (by simp)

/-- An element that holds one slot of a template alone holds the value of it, in whatever the template makes. -/
theorem context_of_slot {s : Scope} {segments before after : List Segment} {outer tag close : String}
    (hsegments : segments = before ++ .literal (outer ++ tag) :: .slot :: .literal ("</" ++ close) :: after)
    (hslots : SlotsInText segments) {earlier later : List String} {value : String}
    (hearlier : earlier.length = before.count .slot) (hxml : ∀ v ∈ earlier, v.toList.all Xml.isXmlChar = true)
    (hends : LeavesEnds segments (earlier ++ value :: later)) {ms : List Token} {name : RawName}
    {as : List Xml.RawAttribute} (houter : Token.Marks (fill before [] ++ outer).toList ms)
    (htag : Token.IsMarkup tag.toList (.startTag name as false)) {nodes : List Node}
    (hnodes : IsContent s (fill segments ((earlier ++ value :: later).map Text.escape)).toList nodes) :
    ∃ (context : Context) (t : Tag), context.elementsBefore = ms.countP Token.isStartTag ∧
      nodes = context.fill (.element t (Fragment.readText value)) := by
  subst hsegments
  have hfilled := marks_before hslots hends hearlier hxml (by simp [fill]) houter
  rw [List.map_append, fill_append _ _ (by simpa using hearlier)] at hnodes
  have htext : (fill before (earlier.map Text.escape) ++ fill (.literal (outer ++ tag) :: .slot ::
        .literal ("</" ++ close) :: after) ((value :: later).map Text.escape)).toList =
      (fill before (earlier.map Text.escape) ++ outer).toList ++ (tag.toList ++ (Text.escapeChars value.toList ++
        '<' :: '/' :: (close.toList ++ (fill after (later.map Text.escape)).toList))) := by
    simp [fill, Text.escape]
  rw [htext] at hnodes
  exact Fragment.context_of_value hfilled htag hnodes

/-- **Values in text bring no markup.**  They are placed wherever empty values are, with the same elements, comments and
instructions; and an element that holds one slot alone holds the value, with its line ends as they are read. -/
theorem values_placed {r : Root} (hprefixes : r.NamesPrefixes) {raw : String} (hmarkup : Fragment.isMarkup raw = true)
    (hslots : SlotsInText (parse raw).segments) {c c₀ : List Node}
    (hplace : (parse raw).place r (List.replicate (parse raw).slots "") c = .ok c₀) {values : List String}
    (hcount : values.length = (parse raw).slots) (hxml : ∀ value ∈ values, value.toList.all Xml.isXmlChar = true)
    (hends : LeavesEnds (parse raw).segments values) :
    ∃ nodes₀ nodes, c₀ = Xml.appendNodes c nodes₀ ∧ (parse raw).place r values c = .ok (Xml.appendNodes c nodes) ∧
      Xml.skeleton nodes = Xml.skeleton nodes₀ ∧
      ∀ (before after : List Segment) (outer tag close : String) (earlier later : List String) (value : String)
        (ms : List Token) (name : RawName) (as : List Xml.RawAttribute),
        (parse raw).segments = before ++ .literal (outer ++ tag) :: .slot :: .literal ("</" ++ close) :: after →
        values = earlier ++ value :: later → earlier.length = before.count .slot →
        Token.Marks (fill before [] ++ outer).toList ms → Token.IsMarkup tag.toList (.startTag name as false) →
        ∃ (context : Context) (t : Tag), context.elementsBefore = ms.countP Token.isStartTag ∧
          nodes = context.fill (.element t (Fragment.readText value)) := by
  have hescape : (List.replicate (parse raw).slots "").map Text.escape = List.replicate (parse raw).slots "" := by
    rw [List.map_replicate]
    rfl
  rw [place_of_fill (by simp), hescape, fill_empty] at hplace
  have hmarkup' := isMarkup_fill hmarkup (values.map Text.escape)
  obtain ⟨hadmits, nodes₀, hnodes₀, rfl⟩ := Fragment.content_of_place hprefixes (isMarkup_fill hmarkup []) hplace
  obtain ⟨ms, ns, ids, hmarks, hcontent, hskeleton₀⟩ := hnodes₀.exists_marks
  obtain ⟨nodes, hnodes, hskeleton⟩ := hcontent.exists_isContent (marks_fill [] hslots hmarks hxml hends)
  refine ⟨Fragment.prune nodes₀, Fragment.prune nodes, rfl, ?_, ?_, ?_⟩
  · rw [place_of_fill hcount, Fragment.place_of_content hprefixes hadmits hmarkup' hnodes]
  · rw [Fragment.prune, Fragment.prune, Xml.skeleton_prune, Xml.skeleton_prune, hskeleton, hskeleton₀]
  · intro before after outer tag close earlier later value ms name as hsegments hvalues hearlier houter htag
    subst hvalues
    have hearlierXml : ∀ v ∈ earlier, v.toList.all Xml.isXmlChar = true := fun v hv =>
      hxml v (List.mem_append_left _ hv)
    obtain ⟨context, t, hcontext, rfl⟩ :=
      context_of_slot hsegments hslots hearlier hearlierXml hends houter htag hnodes
    refine ⟨context.prune, t, by rw [Fragment.elementsBefore_prune, hcontext], ?_⟩
    rw [Fragment.prune_fill rfl, Fragment.pruneNode, Fragment.pruneContent_readText]

end Template

namespace Sample

/-- A template with a slot beside an element that holds another. -/
def nesting : String := "<p>%s<q>%s</q></p>"

theorem segments_nesting : (Template.parse nesting).segments =
    [.literal "<p>", .slot, .literal ("" ++ "<q>"), .slot, .literal ("</" ++ "q></p>")] := by
  decide

theorem marks_p : Token.Marks "<p>".toList [.startTag ⟨"", "p"⟩ [] false] :=
  ⟨[.startTag ⟨"", "p"⟩ [] false], Token.scan_eq_some.mp (by decide), fun raw hraw => by simp at hraw, rfl⟩

theorem slotsInText_nesting : Template.SlotsInText (Template.parse nesting).segments := by
  have hpq : Token.Marks "<p><q>".toList [.startTag ⟨"", "p"⟩ [] false, .startTag ⟨"", "q"⟩ [] false] :=
    ⟨[.startTag ⟨"", "p"⟩ [] false, .startTag ⟨"", "q"⟩ [] false], Token.scan_eq_some.mp (by decide),
      fun raw hraw => by simp at hraw, rfl⟩
  rw [segments_nesting]
  intro before after heq
  have hbefore : before = [.literal "<p>"] ∨ before = [.literal "<p>", .slot, .literal "<q>"] := by
    rcases before with _ | ⟨s₁, _ | ⟨s₂, _ | ⟨s₃, _ | ⟨s₄, _ | ⟨s₅, before⟩⟩⟩⟩⟩ <;> simp_all
  rcases hbefore with rfl | rfl
  · exact ⟨_, by simpa [Template.fill] using marks_p⟩
  · exact ⟨_, by simpa [Template.fill] using hpq⟩

theorem isContent_nested :
    IsContent root.fragmentScope "<p><q></q></p>".toList [element "p" [element "q" []]] := by
  have hdivided : Token.Divided "<p><q></q></p>".toList [.startTag ⟨"", "p"⟩ [] false, .startTag ⟨"", "q"⟩ [] false,
      .endTag ⟨"", "q"⟩, .endTag ⟨"", "p"⟩] := Token.scan_eq_some.mp (by decide)
  have htag (name : String) : Xml.Reader.tag? root.fragmentScope ⟨"", name⟩ [] =
      some (.plain ⟨"", name⟩, root.fragmentScope) := by rfl
  have hnil : Content root.fragmentScope [] [] [] [] := .nil
  have hinside : Content root.fragmentScope [] [.startTag ⟨"", "q"⟩ [] false, .endTag ⟨"", "q"⟩]
      [element "q" []] [] := .element (htag "q") rfl hnil (by rfl) hnil
  exact ⟨_, _, [], hdivided, .element (htag "p") rfl hinside (by rfl) hnil, by rfl⟩

end Sample

namespace Template

/-- A slot beside an element that holds another: the first value has an entity and brackets, the second the end of the
wrapper. -/
theorem brackets_placed :
    Sample.root.NamesPrefixes ∧ Fragment.isMarkup Sample.nesting = true ∧
      SlotsInText (parse Sample.nesting).segments ∧
      (parse Sample.nesting).place Sample.root ["", ""] [] =
        .ok [Sample.element "p" [Sample.element "q" []]] ∧
      LeavesEnds (parse Sample.nesting).segments ["&lt;]]>", "</fragment>]"] ∧
      ∃ nodes, (parse Sample.nesting).place Sample.root ["&lt;]]>", "</fragment>]"] [] =
          .ok (Xml.appendNodes [] nodes) ∧
        Xml.skeleton nodes = [Sample.element "p" [Sample.element "q" []]] ∧
        ∃ (context : Context) (t : Tag), context.elementsBefore = 1 ∧
          nodes = context.fill (.element t [.text "</fragment>]"]) := by
  have hslots := Sample.slotsInText_nesting
  have hq : Token.IsMarkup ('<' :: (['q'] ++ ([] ++ ([] ++ ['>'])))) (.startTag ⟨"", "q"⟩ [] false) :=
    .startTag ⟨List.all_eq_true.mp (by decide), by decide⟩ .nil (fun c hc => absurd hc List.not_mem_nil) .startTag
  have hprefixes : Sample.root.NamesPrefixes := by unfold Root.NamesPrefixes; decide
  have hadmits : Sample.root.AdmitsFragments := by decide
  have hmarkup : Fragment.isMarkup Sample.nesting = true := by decide
  have hcount : (parse Sample.nesting).slots = 2 := by decide
  have hplace : (parse Sample.nesting).place Sample.root ["", ""] [] =
      .ok [Sample.element "p" [Sample.element "q" []]] := by
    have hfill : fill (parse Sample.nesting).segments (["", ""].map Text.escape) = "<p><q></q></p>" := by
      rw [Sample.segments_nesting]
      decide
    have hlength : ["", ""].length = (parse Sample.nesting).slots := hcount.symm
    rw [place_of_fill hlength, hfill]
    exact Fragment.place_of_content hprefixes hadmits (by decide) Sample.isContent_nested []
  have hends : LeavesEnds (parse Sample.nesting).segments ["&lt;]]>", "</fragment>]"] := by
    rw [Sample.segments_nesting]
    refine ⟨fun _ => by decide, fun hends => ?_, trivial⟩
    simp [fill, Token.EndsSection] at hends
  have hempty : (parse Sample.nesting).place Sample.root
      (List.replicate (parse Sample.nesting).slots "") [] = .ok [Sample.element "p" [Sample.element "q" []]] := by
    rw [hcount]
    exact hplace
  have hcount' : ["&lt;]]>", "</fragment>]"].length = (parse Sample.nesting).slots := by
    rw [hcount]
    rfl
  have hxml : ∀ value ∈ ["&lt;]]>", "</fragment>]"], value.toList.all Xml.isXmlChar = true := by decide
  have hplaced := values_placed hprefixes hmarkup hslots hempty hcount' hxml hends
  obtain ⟨nodes₀, nodes, hnodes₀, hnodes, hskeleton, hlone⟩ := hplaced
  refine ⟨hprefixes, hmarkup, hslots, hplace, hends, nodes, hnodes, ?_, ?_⟩
  · have hsame := Xml.skeleton_appendNodes [] nodes₀
    rw [← hnodes₀] at hsame
    rw [Xml.skeleton, List.nil_append] at hsame
    rw [hskeleton, ← hsame, Sample.element, Sample.element, Xml.skeleton_cons_element, Xml.skeleton_cons_element,
      Xml.skeleton]
  · exact hlone [.literal "<p>", .slot] [] "" "<q>" "q></p>" ["&lt;]]>"] [] "</fragment>]" _ _ _
      Sample.segments_nesting rfl rfl (by simpa [fill] using Sample.marks_p) hq

/-- **A value ends a section with the bracket that comes after it in the template**, and then nothing is placed. -/
theorem section_not_placed :
    Sample.root.NamesPrefixes ∧ Fragment.isMarkup "<p>%s></p>" = true ∧ SlotsInText (parse "<p>%s></p>").segments ∧
      (parse "<p>%s></p>").place Sample.root [""] [] = .ok [Sample.element "p" [.text ">"]] ∧
      "]]".toList.all Xml.isXmlChar = true ∧
      (parse "<p>%s></p>").place Sample.root ["]]"] [] = .error (.fragmentSyntax "<p>]]></p>") := by
  have hsegments : (parse "<p>%s></p>").segments = [.literal "<p>", .slot, .literal "></p>"] := by decide
  have hprefixes : Sample.root.NamesPrefixes := by unfold Root.NamesPrefixes; decide
  have hplaced (value : String) : (parse "<p>%s></p>").place Sample.root [value] [] =
      Fragment.place Sample.root (fill (parse "<p>%s></p>").segments [Text.escape value]) [] :=
    place_of_fill (by rw [slots, hsegments]; rfl) []
  have hfill (value : String) : fill (parse "<p>%s></p>").segments [Text.escape value] =
      "<p>" ++ (Text.escape value ++ "></p>") := by
    rw [hsegments, fill, fill, fill, fill, String.append_empty]
  have hplain : Fragment.place Sample.root "<p>></p>" [] = .ok [Sample.element "p" [.text ">"]] := by
    have hdivided : Token.Divided "<p>></p>".toList [.startTag ⟨"", "p"⟩ [] false, .text ['>'], .endTag ⟨"", "p"⟩] :=
      Token.scan_eq_some.mp (by decide)
    have htag : Xml.Reader.tag? Sample.root.fragmentScope ⟨"", "p"⟩ [] =
        some (.plain ⟨"", "p"⟩, Sample.root.fragmentScope) := by rfl
    have hinside : Content Sample.root.fragmentScope [] [.text ['>']] [.text ">"] [] :=
      .node (.text (by decide : Xml.Reader.decodeText ['>'] = some ['>'])) .nil
    exact Fragment.place_of_content hprefixes (by decide) (by decide)
      ⟨_, _, [], hdivided, .element htag rfl hinside (by rfl) .nil, rfl⟩ []
  have hsection : Fragment.place Sample.root "<p>]]></p>" [] = .error (.fragmentSyntax "<p>]]></p>") :=
    Fragment.place_of_scan_none hprefixes (by decide) (by decide) []
  refine ⟨hprefixes, by decide, ?_, ?_, by decide, ?_⟩
  · rw [hsegments]
    intro before after heq
    have hbefore : before = [.literal "<p>"] := by
      rcases before with _ | ⟨s₁, _ | ⟨s₂, _ | ⟨s₃, before⟩⟩⟩ <;> simp_all
    exact ⟨_, by simpa [hbefore, fill] using Sample.marks_p⟩
  · rw [hplaced, hfill]
    exact hplain
  · rw [hplaced, hfill]
    exact hsection

end Template

end Regraft
