import Regraft.Destination
import Regraft.Proofs.FragmentReading
import Regraft.Proofs.Pairing
import Regraft.Proofs.PathReading
import Regraft.Proofs.RootScope
/-!
# Names in fragments

A name is resolved in two ways.  Paths look its prefix up in the registry of the root; fragments are read inside
declarations that are written down from that registry.  Both divide a name alike (`isRawName_of_isName`), and the prefix
stands for the same namespace in both, except that a URI stays escaped in a declaration (`resolve_fragmentScope`).  An
element in a fragment is read accordingly, whether it is empty (`read_emptyTag`) or a value has been rendered into it
(`read_filled`).

Where they are not the same is not proved away but kept in the statements: a name of paths need not be one of markup,
so that is a hypothesis, and the URI of the wrapper is the escaped one.  What follows from the difference is in
`NamesAlike`, where the two readings of a name are compared for good.
-/

namespace Regraft

open Xml (Declaration Node QName RawName Scope Tag Token)

/-! ## 1. Names that are read alike

A name of paths has letters and digits of every script, and one of markup has the characters that the standard names.
Both have at most one colon, and it divides them in the same place: what is before it has none, by the grammar of
paths. -/

namespace Text

theorem splitOnce_append {sep : Char} {s : List Char} (hs : sep ∉ s) (rest : List Char) :
    splitOnce? sep (s ++ sep :: rest) = some (s, rest) := by
  induction s with
  | nil => rw [List.nil_append, splitOnce?, if_pos rfl]
  | cons c s ih =>
    obtain ⟨hc, hs⟩ : sep ≠ c ∧ sep ∉ s := by simpa using hs
    rw [List.cons_append, splitOnce?, if_neg fun h => hc h.symm, ih hs]
    rfl

theorem splitOnce_of_not_mem {sep : Char} {s : List Char} (hs : sep ∉ s) : splitOnce? sep s = none := by
  induction s with
  | nil => rfl
  | cons c s ih =>
    obtain ⟨hc, hs⟩ : sep ≠ c ∧ sep ∉ s := by simpa using hs
    rw [splitOnce?, if_neg fun h => hc h.symm, ih hs]
    rfl

theorem splitOnce_eq_some {sep : Char} {s a b : List Char} :
    splitOnce? sep s = some (a, b) ↔ s = a ++ sep :: b ∧ sep ∉ a := by
  constructor
  · intro h
    by_cases hsep : sep ∈ s
    · obtain ⟨a', b', rfl, ha'⟩ := List.eq_append_cons_of_mem hsep
      rw [splitOnce_append ha'] at h
      cases h
      exact ⟨rfl, ha'⟩
    · rw [splitOnce_of_not_mem hsep] at h
      cases h
  · rintro ⟨rfl, ha⟩
    exact splitOnce_append ha b

end Text

/-- Whether a text is a name of markup, with or without a prefix. -/
def Xml.isQualifiedName (s : String) : Bool :=
  s.toList.all isNameChar && (RawName.ofChars? s.toList).isSome

namespace Path.Grammar

theorem colon_not_mem_of_ncname {s : List Char} (h : NCName s) : ':' ∉ s := by
  have hcolon : Parser.isNameChar ':' = false := (Parser.isNameChar_punctuation ':' (by simp)).1
  have hfirst : Parser.isNameStart ':' = false := by decide +kernel
  cases h with
  | @mk c s first others =>
    intro hmem
    rcases List.mem_cons.mp hmem with rfl | hmem
    · exact absurd (Parser.isNameStart_iff.mpr first) (by simp [hfirst])
    · exact absurd (Parser.isNameChar_iff.mpr (others ':' hmem)) (by simp [hcolon])

/-- A name of paths that is one of markup is divided in the same way there. -/
theorem isRawName_of_isName {s : List Char} {name : Name} (h : IsName s name)
    (hchars : ∀ c ∈ s, Xml.isNameChar c = true) (hdivided : (RawName.ofChars? s).isSome) :
    Token.IsRawName s ⟨name.namespacePrefix.getD "", name.localPart⟩ := by
  refine ⟨hchars, ?_⟩
  cases h with
  | bare h =>
    rw [RawName.ofChars?, Text.splitOnce_of_not_mem (colon_not_mem_of_ncname h)] at hdivided ⊢
    dsimp only [Option.getD_none] at hdivided ⊢
    split at hdivided
    · rename_i hname
      rw [if_pos hname]
    · cases hdivided
  | @prefixed s t hs ht =>
    rw [RawName.ofChars?, Text.splitOnce_append (colon_not_mem_of_ncname hs)] at hdivided ⊢
    dsimp only [Option.getD_some] at hdivided ⊢
    split at hdivided
    · rename_i hname
      rw [if_pos hname]
    · cases hdivided

/-- A path that is one step to the children of a name is the name. -/
theorem isName_of_denotes {text : String} {p : Path} (h : Denotes text p) {s : Step} (hsteps : p.steps = [s])
    {name : Name} (hs : s.waypoint? = some (.child name)) : IsName text.toList name := by
  cases h with
  | empty => cases hsteps
  | @steps _ xs hxs =>
    obtain rfl : xs = [s] := hsteps
    generalize text.toList = chars at hxs ⊢
    cases hxs with
    | more _ hrest => cases hrest
    | one hstep =>
      cases hstep with
      | @mk t u x ps htest hpredicates =>
        obtain ⟨raw, heq⟩ := Step.waypoint?_eq_child.mp hs
        obtain ⟨-, rfl, rfl⟩ := Step.mk.inj heq
        cases hpredicates
        rw [List.append_nil]
        cases htest with
        | element hname => exact hname

/-- A destination is read as its path. -/
theorem denotes_of_parse {text : String} {dest : Destination} (h : Destination.parse text = .ok dest) :
    Denotes text dest.path := by
  obtain ⟨p, hp, h⟩ := bind_ok.mp h
  have hpath : dest.path = p := by
    unfold Destination.ofPath at h
    split at h
    · cases h
      rfl
    · cases h
  rw [hpath]
  exact parse_eq_ok_iff.mp hp

/-- A destination that is one child is the name. -/
theorem isName_of_parse {q : String} {dest : Destination} {name : Name} (h : Destination.parse q = .ok dest)
    (hname : dest.waypoints = [.child name]) : IsName q.toList name := by
  have hspelled := dest.spelled
  rw [hname, List.map_singleton] at hspelled
  obtain ⟨s, hsteps, hs⟩ := List.map_eq_singleton_iff.mp hspelled
  exact isName_of_denotes (denotes_of_parse h) hsteps hs

end Path.Grammar

/-! ## 2. Namespaces in the wrapper

The registry has one binding for every prefix, so the declarations that are written from it have one as well, and the
first that is found in the scope is the only one.  A name without a prefix is that of the default namespace in both. -/

namespace Root

variable {r : Root}

/-- A binding of a registry is found, as no prefix is bound twice. -/
theorem resolve_of_mem_bindings {ns : Namespaces} {p uri : String} (h : (p, uri) ∈ ns.bindings) :
    ns.resolve p = some uri := by
  obtain ⟨⟨entries, ascending⟩⟩ := ns
  have hlookup : ∀ entries : List (String × String), entries.Pairwise (·.1 < ·.1) → (p, uri) ∈ entries →
      entries.lookup p = some uri := by
    intro entries hascending hmem
    induction entries with
    | nil => cases hmem
    | cons e entries ih =>
      obtain ⟨hfirst, hrest⟩ := List.pairwise_cons.mp hascending
      rcases List.mem_cons.mp hmem with rfl | hmem
      · simp
      · have hne : p ≠ e.1 := fun heq => String.lt_irrefl p (by simpa [heq] using hfirst _ hmem)
        rw [List.lookup_cons, beq_false_of_ne hne]
        exact ih hrest hmem
  exact hlookup entries ascending h

/-- A prefix stands for what it is declared as, if it is declared once. -/
theorem resolve_fragmentScope_of_mem {p uri : String} (hmem : ⟨p, uri⟩ ∈ r.writtenDeclarations)
    (honly : ∀ uri', ⟨p, uri'⟩ ∈ r.writtenDeclarations → uri' = uri) : r.fragmentScope.resolve? p = some uri := by
  cases hresolve : r.fragmentScope.resolve? p with
  | none =>
    rw [Scope.resolve?, Option.map_eq_none_iff] at hresolve
    have hscope : (⟨p, uri⟩ : Declaration) ∈ r.fragmentScope :=
      List.mem_append_left _ (List.mem_reverse.mpr hmem)
    exact absurd (List.find?_eq_none.mp hresolve _ hscope) (by simp)
  | some uri' =>
    rcases Xml.resolve_append hresolve with hmem' | ⟨hnone, -⟩
    · rw [honly uri' hmem']
    · exact absurd rfl (hnone _ hmem)

/-- What is declared around fragments: the default namespace, if there is one, and the bindings. -/
theorem mem_writtenDeclarations {p uri : String} : ⟨p, uri⟩ ∈ r.writtenDeclarations ↔
    (p = "" ∧ r.defaultUri ≠ "" ∧ uri = Text.escapeAttribute r.defaultUri) ∨
      ∃ b ∈ r.namespaces.bindings, p = b.1 ∧ uri = Text.escapeAttribute b.2 := by
  constructor
  · intro h
    obtain ⟨d, hd, heq⟩ := List.mem_map.mp h
    obtain ⟨rfl, rfl⟩ := Declaration.mk.inj heq
    rcases List.mem_append.mp hd with hd | hd
    · rw [defaultDeclaration] at hd
      split at hd
      · cases hd
      · rename_i hne
        obtain rfl := List.mem_singleton.mp hd
        exact .inl ⟨rfl, fun hempty => hne (by simp [hempty]), rfl⟩
    · obtain ⟨b, hb, rfl⟩ := List.mem_map.mp hd
      exact .inr ⟨b, hb, rfl, rfl⟩
  · rintro (⟨rfl, hne, rfl⟩ | ⟨b, hb, rfl, rfl⟩)
    · have hd : ⟨"", r.defaultUri⟩ ∈ r.wrapperDeclarations :=
        List.mem_append_left _ (by simp [defaultDeclaration, hne])
      exact List.mem_map_of_mem hd
    · have hd : ⟨b.1, b.2⟩ ∈ r.wrapperDeclarations := List.mem_append_right _ (List.mem_map_of_mem hb)
      exact List.mem_map_of_mem hd

/-- **In a fragment a name stands for what it stands for in a path, but with its URI escaped.** -/
theorem resolve_fragmentScope (hprefixes : r.NamesPrefixes) {name : Name} {n : QName}
    (hbound : r.resolver.elementName name = .ok n) :
    r.fragmentScope.resolve? (name.namespacePrefix.getD "") = some (Text.escapeAttribute n.uri) ∧
      n.localPart = name.localPart := by
  obtain ⟨namespacePrefix, localPart⟩ := name
  cases namespacePrefix with
  | none =>
    cases hbound
    refine ⟨?_, rfl⟩
    show r.fragmentScope.resolve? "" = some (Text.escapeAttribute r.defaultUri)
    have hnone : ∀ b ∈ r.namespaces.bindings, b.1 ≠ "" := fun b hb => ne_empty_of_isName (hprefixes b hb)
    by_cases hdefault : r.defaultUri = ""
    · -- Without a default namespace the empty prefix stands for what it stands for outside the wrapper.
      have hfind : r.writtenDeclarations.reverse.find? (fun d => d.namespacePrefix == "") = none := by
        refine List.find?_eq_none.mpr fun d hd hp => ?_
        have hp : d.namespacePrefix = "" := by simpa using hp
        rcases mem_writtenDeclarations.mp (List.mem_reverse.mp hd) with ⟨-, hne, -⟩ | ⟨b, hb, hb', -⟩
        · exact hne hdefault
        · exact hnone b hb (hb'.symm.trans hp)
      rw [Scope.resolve?, fragmentScope, List.find?_append, hfind, hdefault]
      rfl
    · have hwritten := mem_writtenDeclarations.mpr (.inl ⟨rfl, hdefault, rfl⟩)
      refine resolve_fragmentScope_of_mem hwritten fun uri' hmem => ?_
      rcases mem_writtenDeclarations.mp hmem with ⟨-, -, huri⟩ | ⟨b, hb, hb', -⟩
      · exact huri
      · exact absurd hb'.symm (hnone b hb)
  | some p =>
    simp only [Resolver.elementName, Resolver.prefixed, Root.resolver] at hbound
    split at hbound
    · rename_i uri hresolve
      cases hbound
      refine ⟨?_, rfl⟩
      show r.fragmentScope.resolve? p = some (Text.escapeAttribute uri)
      have hb := mem_bindings_of_resolve hresolve
      have hisName : Xml.isName p = true := hprefixes (p, uri) hb
      have hp := ne_empty_of_isName hisName
      have hwritten := mem_writtenDeclarations.mpr (.inr ⟨_, hb, rfl, rfl⟩)
      -- The prefix is bound once, so that no other declaration of it could be found.
      refine resolve_fragmentScope_of_mem hwritten fun uri' hmem => ?_
      rcases mem_writtenDeclarations.mp hmem with ⟨hempty, -, -⟩ | ⟨b, hb', hpb, huri⟩
      · exact absurd hempty hp
      · have hsame := resolve_of_mem_bindings hb'
        rw [← hpb, hresolve] at hsame
        rw [huri, Option.some.inj hsame]
    · cases hbound

end Root

/-! ## 3. Elements that fragments place

A fragment that is one element is followed through the whole of reading: the tokens of the wrapper with those of the
element in it, the states that these lead to, the blank texts, of which there are none to take out, and the content of
the wrapper at the end. -/

namespace Fragment

open Xml.Reader (State)

/-- The content of an element that a value has been rendered into. -/
def readText (value : String) : List Node :=
  if value = "" then [] else [.text (.ofList (Xml.Reader.normalized '\n' id value.toList))]

/-- What a value is read as: a run of text, unless it is empty. -/
def valueTokens (value : String) : List Token :=
  if value = "" then [] else [.text (Text.escapeChars value.toList)]

/-- An escaped value is divided as a run of text, if it is not empty. -/
theorem scanFrom_value {value : String} (hxml : value.toList.all Xml.isXmlChar = true) {rest : List Char}
    {tokens : List Token}
    (hrest : ∀ fuel, ('<' :: rest).length ≤ fuel → Token.scanFrom fuel ('<' :: rest) = some tokens) :
    ∀ fuel, (Text.escapeChars value.toList ++ '<' :: rest).length ≤ fuel →
      Token.scanFrom fuel (Text.escapeChars value.toList ++ '<' :: rest) = some (valueTokens value ++ tokens) := by
  rw [valueTokens]
  split
  · rename_i hempty
    rw [hempty]
    exact hrest
  · rename_i hne
    have hchars : value.toList ≠ [] := fun h => hne (String.toList_eq_nil_iff.mp h)
    refine Token.scanFrom_cons (Token.next_escaped hchars hxml _) ?_ hrest
    have hpos := List.length_pos_iff.mpr (Text.escapeChars_ne_nil hchars)
    rw [List.length_append]
    omega

/-- It is read as the content of the element that it stands in. -/
theorem foldlM_value {st : State} (hopened : st.opened.isEmpty = false) (hreversed : st.reversed = [])
    (value : String) :
    (valueTokens value).foldlM State.take st = some { st with reversed := (readText value).reverse } := by
  rw [valueTokens, readText]
  split
  · rw [List.foldlM_nil, List.reverse_nil, ← hreversed]
    rfl
  · rw [List.foldlM_cons, Xml.Reader.take_escaped hopened hreversed]
    rfl

/-- No blank text is taken out of a single element without elements in it. -/
theorem strip_element (t : Tag) {k : List Node} (hk : k.any Node.isElement = false) :
    strip [.element t k] = [.element t k] := by
  have hinside : (⟨[0], k, false⟩ : Pending).inside = [] := by
    rw [Pending.inside, List.reverse_eq_nil_iff, List.filterMap_eq_nil_iff]
    intro m hm
    have hmem : m.1 ∈ k := List.fst_mem_of_mem_zipIdx hm
    have hnot : m.1.isElement = false := by simpa using List.any_eq_false.mp hk _ hmem
    simp [hnot]
  have hblanks : (⟨[0], k, false⟩ : Pending).blanks = [] := by
    rw [Pending.blanks, if_neg]
    simp [hk]
  have hnone : blankTexts [.element t k] = [] := by
    have hfirst : (⟨[], [.element t k], true⟩ : Pending).blanks = [] := rfl
    have hbelow : (⟨[], [.element t k], true⟩ : Pending).inside = [⟨[0], k, false⟩] := rfl
    rw [blankTexts, searchBlanks, hfirst, hbelow]
    show searchBlanks (contentCount k + 1) [] [⟨[0], k, false⟩] = []
    rw [searchBlanks, hblanks, hinside]
    cases contentCount k <;> rfl
  rw [strip, hnone]
  rfl

variable {r : Root} {q : String} {raw : RawName} {uri : String}

theorem scanFrom_end : ∀ fuel, "</rewrite-fragment>".toList.length ≤ fuel →
    Token.scanFrom fuel "</rewrite-fragment>".toList = some [.endTag ⟨"", "rewrite-fragment"⟩] := by
  have hname : Token.IsRawName "rewrite-fragment".toList ⟨"", "rewrite-fragment"⟩ :=
    ⟨List.all_eq_true.mp (by decide : "rewrite-fragment".toList.all Xml.isNameChar = true), by decide⟩
  refine Token.scanFrom_cons (Token.next_endTag hname []) (by decide) fun fuel _ => ?_
  cases fuel <;> rfl

theorem elementName_within (huri : r.fragmentScope.resolve? raw.namespacePrefix = some uri) (t : Tag) :
    Xml.Reader.elementName? (within r t).scope raw = some ⟨uri, raw.localPart⟩ := by
  show Xml.Reader.elementName? r.fragmentScope raw = _
  rw [Xml.Reader.elementName?, huri]
  rfl

section Reads

variable (hprefixes : r.NamesPrefixes) (hadmits : r.AdmitsFragments) (hraw : Token.IsRawName q.toList raw)
  (huri : r.fragmentScope.resolve? raw.namespacePrefix = some uri)

include hprefixes hadmits hraw huri

/-- An empty element is read as one of the name that its prefix stands for. -/
theorem read_emptyTag : read r ("<" ++ q ++ "/>") = .ok [emptyElement ⟨uri, raw.localPart⟩] := by
  have hchars : ("<" ++ q ++ "/>").toList ++ "</rewrite-fragment>".toList =
      '<' :: (q.toList ++ '/' :: '>' :: "</rewrite-fragment>".toList) := by simp
  have htokens := Token.scanFrom_cons (Token.next_emptyTag hraw _) (by simp) scanFrom_end
  rw [← hchars] at htokens
  have hnodes (t : Tag) : [Token.startTag raw [] true].foldlM State.take (within r t) =
      some { within r t with reversed := [emptyElement ⟨uri, raw.localPart⟩].reverse } := by
    rw [List.foldlM_cons, Xml.Reader.take_emptyTag rfl (elementName_within huri t)]
    rfl
  rw [read_of_tokens hprefixes hadmits htokens hnodes, emptyElement, strip_element _ rfl]

/-- An element with an escaped value in it is read as one of that name with the value as its text. -/
theorem read_filled {value : String} (hxml : value.toList.all Xml.isXmlChar = true) :
    read r ("<" ++ q ++ ">" ++ Text.escape value ++ "</" ++ q ++ ">") =
      .ok [.element (.plain ⟨uri, raw.localPart⟩) (readText value)] := by
  have hchars : ("<" ++ q ++ ">" ++ Text.escape value ++ "</" ++ q ++ ">").toList ++ "</rewrite-fragment>".toList =
      '<' :: (q.toList ++ '>' :: (Text.escapeChars value.toList ++
        '<' :: '/' :: (q.toList ++ '>' :: "</rewrite-fragment>".toList))) := by simp [Text.escape]
  have hclose := Token.scanFrom_cons (Token.next_endTag hraw "</rewrite-fragment>".toList) (by simp) scanFrom_end
  have htokens := Token.scanFrom_cons (Token.next_startTag hraw _) (by simp; omega) (scanFrom_value hxml hclose)
  have hlast : Token.startTag raw [] false ::
        (valueTokens value ++ [Token.endTag raw, Token.endTag ⟨"", "rewrite-fragment"⟩]) =
      Token.startTag raw [] false :: (valueTokens value ++ [Token.endTag raw]) ++
        [Token.endTag ⟨"", "rewrite-fragment"⟩] := by simp
  rw [← hchars, hlast] at htokens
  have hnodes (t : Tag) :
      (Token.startTag raw [] false :: (valueTokens value ++ [Token.endTag raw])).foldlM State.take (within r t) =
        some { within r t with
          reversed := [Node.element (.plain ⟨uri, raw.localPart⟩) (readText value)].reverse } :=
    Xml.Reader.foldlM_element rfl (elementName_within huri t) (foldlM_value rfl rfl value)
  have htext : (readText value).any Node.isElement = false := by
    rw [readText]
    split <;> rfl
  rw [read_of_tokens hprefixes hadmits htokens hnodes, strip_element _ htext]

end Reads

end Fragment

end Regraft
