import Regraft.Proofs.References
import Regraft.Proofs.Wrapping
/-!
# Reading fragments token by token

Whether a fragment can be read at all is first a matter of its wrapper: each declaration in it has to be an attribute
of markup (`Root.AdmitsFragments`).  If it is, the fragment is what its own tokens make inside the wrapper
(`read_of_tokens`), and if not, no fragment is read (`read_of_not_admits`).

The tokens of a fragment are found one after the other.  There is one lemma for every kind of markup that is needed,
each about what stands in front of any other text.

That the wrapper can be a hindrance is no mistake of the model.  A prefix may be any name, also one with a colon, and a
URI any text; written into a tag, they may make a tag that is not well-formed.  Then every fragment is refused, with the
error that says so of its own text.
-/

namespace Regraft

open Xml (Declaration Document Node QName RawAttribute RawName Scope Tag Token)

namespace Xml

/-! ## 1. Tokens

The lemmas follow a text from the left.  Each has the text of one token in front of an arbitrary rest and says what is
found first and what is left. -/

namespace Token

/-- A name with what it is divided into. -/
structure IsRawName (name : List Char) (raw : RawName) : Prop where
  chars : ∀ c ∈ name, isNameChar c = true
  divided : RawName.ofChars? name = some raw

variable {name : List Char} {raw : RawName}

theorem IsRawName.exists_cons (h : IsRawName name raw) : ∃ c rest, name = c :: rest ∧ isNameChar c = true := by
  cases name with
  | nil => cases h.divided
  | cons c rest => exact ⟨c, rest, rfl, h.chars c List.mem_cons_self⟩

/-- A name is read up to a character that is not of a name. -/
theorem IsRawName.rawName (h : IsRawName name raw) {c : Char} (hc : isNameChar c = false) (rest : List Char) :
    rawName? (name ++ c :: rest) = some (raw, c :: rest) := by
  rw [rawName_append h.chars, h.divided]
  · rfl
  · intro d hd
    obtain rfl : c = d := by simpa using hd
    exact hc

/-- A bracket before a name begins a tag. -/
theorem IsRawName.next (h : IsRawName name raw) (rest : List Char) :
    next? ('<' :: (name ++ rest)) = startTag? (name ++ rest) := by
  obtain ⟨c, others, rfl, hc⟩ := h.exists_cons
  rw [List.cons_append, next?.eq_def]
  split
  · rename_i heq
    exact absurd (List.cons.inj (List.cons.inj heq).2).1 (ne_of_isNameChar hc (by decide))
  · rename_i heq
    exact absurd (List.cons.inj (List.cons.inj heq).2).1 (ne_of_isNameChar hc (by decide))
  · rename_i heq
    exact absurd (List.cons.inj (List.cons.inj heq).2).1 (ne_of_isNameChar hc (by decide))
  · rename_i heq
    exact absurd (List.cons.inj (List.cons.inj heq).2).1 (ne_of_isNameChar hc (by decide))
  · rename_i heq
    rw [(List.cons.inj heq).2]
  · rename_i hnot
    exact absurd rfl (hnot _)

theorem next_startTag (h : IsRawName name raw) (rest : List Char) :
    next? ('<' :: (name ++ '>' :: rest)) = some (.startTag raw [] false, rest) := by
  rw [h.next, startTag?, h.rawName (by decide)]
  rfl

theorem next_emptyTag (h : IsRawName name raw) (rest : List Char) :
    next? ('<' :: (name ++ '/' :: '>' :: rest)) = some (.startTag raw [] true, rest) := by
  rw [h.next, startTag?, h.rawName (by decide)]
  rfl

theorem next_endTag (h : IsRawName name raw) (rest : List Char) :
    next? ('<' :: '/' :: (name ++ '>' :: rest)) = some (.endTag raw, rest) := by
  have hname : endTag? (name ++ '>' :: rest) = some (.endTag raw, rest) := by
    rw [endTag?, h.rawName (by decide)]
    rfl
  exact hname

/-- An escaped text is a run of text. -/
theorem next_escaped {s : List Char} (hs : s ≠ []) (hxml : s.all isXmlChar = true) (rest : List Char) :
    next? (Text.escapeChars s ++ '<' :: rest) = some (.text (Text.escapeChars s), '<' :: rest) := by
  have hbracket := Text.not_mem_escapeChars s
  have hne := Text.escapeChars_ne_nil hs
  have hchars : (Text.escapeChars s).all isXmlChar = true := (all_escapeChars s).trans hxml
  have hend : splitAtWord? "]]>".toList (Text.escapeChars s) = none :=
    splitAtWord_of_not_mem (by decide) (Text.greater_not_mem_escapeChars s)
  generalize Text.escapeChars s = raw at hbracket hne hchars hend ⊢
  obtain ⟨htake, hdrop⟩ := Text.takeWhile_bne_append hbracket rest
  have htext : text? (raw ++ '<' :: rest) = some (.text raw, '<' :: rest) := by
    rw [text?, htake, hdrop, hchars, hend]
    rfl
  obtain ⟨c, others, rfl⟩ := List.exists_cons_of_ne_nil hne
  have hc : c ≠ '<' := fun heq => hbracket (heq ▸ List.mem_cons_self)
  rw [List.cons_append] at htext ⊢
  rw [next?.eq_def]
  split
  · rename_i heq
    exact absurd (List.cons.inj heq).1 hc
  · rename_i heq
    exact absurd (List.cons.inj heq).1 hc
  · rename_i heq
    exact absurd (List.cons.inj heq).1 hc
  · rename_i heq
    exact absurd (List.cons.inj heq).1 hc
  · rename_i heq
    exact absurd (List.cons.inj heq).1 hc
  · exact htext

/-- One token after another: there are enough steps for the text after the first if there are for the whole. -/
theorem scanFrom_cons {s rest : List Char} {token : Token} {tokens : List Token} (hnext : next? s = some (token, rest))
    (hshorter : rest.length < s.length)
    (hrest : ∀ fuel, rest.length ≤ fuel → scanFrom fuel rest = some tokens) :
    ∀ fuel, s.length ≤ fuel → scanFrom fuel s = some (token :: tokens) := by
  intro fuel hfuel
  cases s with
  | nil => cases hshorter
  | cons c s =>
    cases fuel with
    | zero => cases hfuel
    | succ fuel =>
      have htokens := hrest fuel (by omega)
      simp [scanFrom, hnext, htokens]

end Token

/-! ## 2. What tokens make of what has been read

Where an element is open, tokens are taken into its content.  An element that begins and ends among them is one node of
that content. -/

namespace Reader

variable {st : State} {raw : RawName} {q : QName}

theorem take_startTag (hopened : st.opened.isEmpty = false) (h : elementName? st.scope raw = some q) :
    st.take (.startTag raw [] false) = some ⟨⟨.plain q, st.scope, st.reversed⟩ :: st.opened, [], st.ids⟩ := by
  simp [State.take, hopened, tag?, h, useIds?, Tag.plain]

theorem take_emptyTag (hopened : st.opened.isEmpty = false) (h : elementName? st.scope raw = some q) :
    st.take (.startTag raw [] true) = some { st with reversed := .element (.plain q) [] :: st.reversed } := by
  simp [State.take, hopened, tag?, h, useIds?, Tag.plain]

/-- An end tag ends the innermost element, if it has its name. -/
theorem take_endTag {o : Opened} {opened : List Opened} (hopened : st.opened = o :: opened)
    (h : elementName? o.scope raw = some o.tag.name) :
    st.take (.endTag raw) = some { st with opened, reversed := .element o.tag st.reversed.reverse :: o.before } := by
  simp [State.take, hopened, h]

theorem take_escaped (hopened : st.opened.isEmpty = false) (hreversed : st.reversed = []) (s : List Char) :
    st.take (.text (Text.escapeChars s)) =
      some { st with reversed := [.text (.ofList (normalized '\n' id s))] } := by
  have hdecode : decodeText (Text.escapeChars s) = some (normalized '\n' id s) :=
    decode_escapeChars (fun _ _ => rfl) s
  simp [State.take, hopened, hdecode, State.addText, hreversed]

/-- An element is what its content makes inside its tags. -/
theorem foldlM_element {tokens : List Token} {content : List Node} (hopened : st.opened.isEmpty = false)
    (h : elementName? st.scope raw = some q)
    (hcontent : tokens.foldlM State.take ⟨⟨.plain q, st.scope, st.reversed⟩ :: st.opened, [], st.ids⟩ =
      some ⟨⟨.plain q, st.scope, st.reversed⟩ :: st.opened, content.reverse, st.ids⟩) :
    (.startTag raw [] false :: (tokens ++ [.endTag raw])).foldlM State.take st =
      some { st with reversed := .element (.plain q) content :: st.reversed } := by
  have hend : State.take ⟨⟨.plain q, st.scope, st.reversed⟩ :: st.opened, content.reverse, st.ids⟩ (.endTag raw) =
      some { st with reversed := .element (.plain q) content :: st.reversed } := by
    rw [take_endTag rfl h, List.reverse_reverse]
  rw [List.foldlM_cons, take_startTag hopened h]
  simp only [Option.bind_eq_bind, Option.bind_some, List.foldlM_append, hcontent, List.foldlM_cons, List.foldlM_nil,
    hend]
  rfl

end Reader

end Xml

/-! ## 3. Fragments in their wrapper

The text that is read is the start tag of the wrapper, the fragment, and the end tag.  The start tag is taken first, and
declares what fragments may use; from there on only the fragment matters. -/

namespace Root

/-- The declarations around fragments can be read: no prefix has a colon, and all URIs consist of characters of
markup. -/
def AdmitsFragments (r : Root) : Prop :=
  ∀ d ∈ r.wrapperDeclarations, ':' ∉ d.namespacePrefix.toList ∧ d.uri.toList.all Xml.isXmlChar = true

instance (r : Root) : Decidable r.AdmitsFragments := by
  unfold AdmitsFragments
  infer_instance

/-- What is declared inside the wrapper, the innermost first. -/
def fragmentScope (r : Root) : Scope := r.writtenDeclarations.reverse ++ Scope.outermost

variable {r : Root}

theorem all_escapeAttribute (s : String) :
    (Text.escapeAttribute s).toList.all Xml.isXmlChar = s.toList.all Xml.isXmlChar := by
  rw [Text.escapeAttribute, String.toList_ofList, Text.replaceAll_singleton, List.all_flatMap,
    ← Xml.all_escapeChars s.toList]
  congr 1
  funext c
  split
  · rename_i h
    rw [h]
    decide
  · simp

theorem isSome_ofChars {d : Declaration} (h : d.namespacePrefix = "" ∨ Xml.isName d.namespacePrefix = true) :
    (RawName.ofChars? (Xml.declarationName d)).isSome ↔ ':' ∉ d.namespacePrefix.toList := by
  rw [Xml.declarationName]
  split
  · rename_i hempty
    rw [hempty]
    decide
  · rename_i hne
    have hname := h.resolve_left hne
    have hsplit : Text.splitOnce? ':' ("xmlns:".toList ++ d.namespacePrefix.toList) =
        some ("xmlns".toList, d.namespacePrefix.toList) := rfl
    have hstart : d.namespacePrefix.toList.head?.any Xml.isNameStart = true := (Bool.and_eq_true_iff.mp hname).1
    have hword : ("xmlns".toList.head?.all Xml.isNameStart) = true := by decide
    rw [RawName.ofChars?, hsplit, Option.getD_some]
    dsimp only
    rw [hword, hstart]
    by_cases hcolon : ':' ∈ d.namespacePrefix.toList
    · simp [hcolon]
    · simp [hcolon]

/-- The wrapper admits fragments if all its declarations can be read as attributes. -/
theorem admitsFragments_iff (hprefixes : r.NamesPrefixes) :
    r.AdmitsFragments ↔ (r.writtenDeclarations.mapM Xml.attributeOf?).isSome := by
  rw [Xml.mapM_isSome, writtenDeclarations, List.forall_mem_map, AdmitsFragments]
  refine forall₂_congr fun d hd => ?_
  have hwritten := r.isWritten_writtenDeclarations hprefixes _ (List.mem_map_of_mem hd)
  have hname := isSome_ofChars hwritten.spelled
  have huri := all_escapeAttribute d.uri
  rw [← hname, ← huri, Xml.attributeOf?]
  cases RawName.ofChars? (Xml.declarationName ⟨d.namespacePrefix, Text.escapeAttribute d.uri⟩) with
  | none => simp
  | some n =>
    cases (Text.escapeAttribute d.uri).toList.all Xml.isXmlChar with
    | false => simp
    | true => simp

end Root

namespace Fragment

open Xml.Reader (State)

variable {r : Root}

/-- What has been read once the wrapper has begun. -/
def within (r : Root) (t : Tag) : State := ⟨[⟨t, r.fragmentScope, []⟩], [], []⟩

/-- The name of the wrapper stands for something in every scope, since there is a default namespace or none. -/
theorem exists_wrapperName (r : Root) :
    ∃ q, Xml.Reader.elementName? r.fragmentScope ⟨"", "rewrite-fragment"⟩ = some q := by
  have hmem : (⟨"", ""⟩ : Declaration) ∈ r.fragmentScope := List.mem_append_right _ (by decide)
  cases hfind : r.fragmentScope.find? fun d => d.namespacePrefix == "" with
  | none => exact absurd (List.find?_eq_none.mp hfind _ hmem) (by decide)
  | some d => exact ⟨⟨d.uri, "rewrite-fragment"⟩, by simp [Xml.Reader.elementName?, Scope.resolve?, hfind]⟩

/-- The wrapper begins, with its declarations in force. -/
theorem take_wrapper {attributes : List RawAttribute}
    (hattributes : r.writtenDeclarations.mapM Xml.attributeOf? = some attributes) {q : QName}
    (hq : Xml.Reader.elementName? r.fragmentScope ⟨"", "rewrite-fragment"⟩ = some q) :
    State.start.take (.startTag ⟨"", "rewrite-fragment"⟩ attributes false) =
      some (within r ⟨q, r.writtenDeclarations, []⟩) := by
  obtain ⟨hdeclarations, hplain⟩ := Xml.declarations_of_mapM hattributes
  have hscope : (State.start).scope = Scope.outermost := rfl
  rw [Root.fragmentScope] at hq
  have htag : Xml.Reader.tag? Scope.outermost ⟨"", "rewrite-fragment"⟩ attributes =
      some (⟨q, r.writtenDeclarations, []⟩, r.fragmentScope) := by
    rw [Xml.Reader.tag?, hdeclarations, hplain]
    simp [hq, Root.fragmentScope]
  rw [State.take, hscope, htag]
  rfl

/-- The characters of a wrapper are read as the tokens that they are divided into. -/
theorem readChars_wrap (hprefixes : r.NamesPrefixes) (text : String) :
    ∃ fuel, (text.toList ++ "</rewrite-fragment>".toList).length ≤ fuel ∧
      Xml.Reader.readChars (wrap r text).toList = (do
        let attributes ← r.writtenDeclarations.mapM Xml.attributeOf?
        let tokens ← Token.scanFrom fuel (text.toList ++ "</rewrite-fragment>".toList)
        let st ← (Token.startTag ⟨"", "rewrite-fragment"⟩ attributes false :: tokens).foldlM State.take State.start
        st.document?) := by
  obtain ⟨fuel, hfuel, hscan⟩ := Token.scan_fragment (r.isWritten_writtenDeclarations hprefixes)
    (text.toList ++ "</rewrite-fragment>".toList)
  refine ⟨fuel, hfuel, ?_⟩
  rw [Xml.Reader.readChars, wrap_toList hprefixes, Token.afterDeclaration_fragment]
  simp only [Option.bind_eq_bind, Option.bind_some, hscan]
  cases r.writtenDeclarations.mapM Xml.attributeOf? with
  | none => rfl
  | some attributes => cases Token.scanFrom fuel (text.toList ++ "</rewrite-fragment>".toList) <;> rfl

/-- The wrapper of a fragment is the root of a document, with what the tokens of the fragment make in it. -/
theorem readChars_of_tokens (hprefixes : r.NamesPrefixes) (hadmits : r.AdmitsFragments) {text : String}
    {tokens : List Token} {nodes : List Node} {ids : List String}
    (htokens : ∀ fuel, (text.toList ++ "</rewrite-fragment>".toList).length ≤ fuel →
      Token.scanFrom fuel (text.toList ++ "</rewrite-fragment>".toList) =
        some (tokens ++ [.endTag ⟨"", "rewrite-fragment"⟩]))
    (hnodes : ∀ t, tokens.foldlM State.take (within r t) = some { within r t with reversed := nodes.reverse, ids }) :
    ∃ t, Xml.Reader.readChars (wrap r text).toList = some ⟨[.element t nodes]⟩ := by
  obtain ⟨attributes, hattributes⟩ := Option.isSome_iff_exists.mp ((Root.admitsFragments_iff hprefixes).mp hadmits)
  obtain ⟨q, hq⟩ := exists_wrapperName r
  obtain ⟨fuel, hfuel, hread⟩ := readChars_wrap hprefixes text
  have hend : State.take { within r ⟨q, r.writtenDeclarations, []⟩ with reversed := nodes.reverse, ids }
      (.endTag ⟨"", "rewrite-fragment"⟩) = some ⟨[], [.element ⟨q, r.writtenDeclarations, []⟩ nodes], ids⟩ := by
    rw [Xml.Reader.take_endTag (o := ⟨⟨q, r.writtenDeclarations, []⟩, r.fragmentScope, []⟩) rfl hq,
      List.reverse_reverse]
  refine ⟨⟨q, r.writtenDeclarations, []⟩, ?_⟩
  rw [hread, hattributes, htokens fuel hfuel]
  simp only [Option.bind_eq_bind, Option.bind_some, List.foldlM_cons, take_wrapper hattributes hq,
    List.foldlM_append, hnodes, List.foldlM_nil, hend]
  rfl

/-- **A fragment is what its tokens make inside the wrapper**, without the blank texts that lay it out. -/
theorem read_of_tokens (hprefixes : r.NamesPrefixes) (hadmits : r.AdmitsFragments) {text : String}
    {tokens : List Token} {nodes : List Node} {ids : List String}
    (htokens : ∀ fuel, (text.toList ++ "</rewrite-fragment>".toList).length ≤ fuel →
      Token.scanFrom fuel (text.toList ++ "</rewrite-fragment>".toList) =
        some (tokens ++ [.endTag ⟨"", "rewrite-fragment"⟩]))
    (hnodes : ∀ t, tokens.foldlM State.take (within r t) = some { within r t with reversed := nodes.reverse, ids }) :
    read r text = .ok (strip nodes) := by
  obtain ⟨t, hdocument⟩ := readChars_of_tokens hprefixes hadmits htokens hnodes
  rw [read_eq, hdocument]
  rfl

/-- If the wrapper cannot be read, no fragment is. -/
theorem read_of_not_admits (hprefixes : r.NamesPrefixes) (hadmits : ¬ r.AdmitsFragments) (text : String) :
    read r text = .error (.fragmentSyntax text) := by
  have hattributes : r.writtenDeclarations.mapM Xml.attributeOf? = none := by
    rw [Root.admitsFragments_iff hprefixes, Option.not_isSome_iff_eq_none] at hadmits
    exact hadmits
  obtain ⟨fuel, -, hread⟩ := readChars_wrap hprefixes text
  rw [read_eq, hread, hattributes]
  rfl

end Fragment

end Regraft
