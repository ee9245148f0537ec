import Regraft.Proofs.Pairing
import Regraft.Proofs.ReadScopes
import Regraft.Proofs.Scanning
import Regraft.Proofs.TextsApart
/-!
# Well-formed content

What tokens spell between the tags of an element (`Content`): texts, comments, instructions and elements, each of which
begins with a start tag whose names stand for something and ends with an end tag of its name, and no identifier twice.
The grammar knows nothing of what is open while a document is read.  Reading agrees with it: tokens that spell a content
are taken to its end (`Content.foldlM_take`), and whatever is taken until the innermost element is closed spells one
(`exists_content`).

So a fragment is read exactly if it is well-formed content in the scope of its wrapper (`Fragment.read_of_content`,
`Fragment.read_of_not_content`).  The second half rests on the first token that closes the wrapper: if a fragment closed
the wrapper itself, by an end tag of its name, then the end tag that is written behind it would find the root closed.
-/

namespace Regraft

namespace Xml

/-! ## 1. Nodes one after the other

Reading holds what it has read last node first, and joins a text to a text before it.  `pushNode` is one step of that,
and `appendNodes` many. -/

/-- A content held last node first, with a node after it. -/
def pushNode (reversed : List Node) (n : Node) : List Node := (appendNode reversed.reverse n).reverse

theorem pushNode_of_not_text {n : Node} (hn : n.isText = false) (reversed : List Node) :
    pushNode reversed n = n :: reversed := by
  rw [pushNode, appendNode_of_not_text hn, List.reverse_append, List.reverse_reverse]
  rfl

theorem pushNode_cons (m n : Node) (reversed : List Node) :
    pushNode (m :: reversed) n = (joinNodes m n).reverse ++ reversed := by
  rw [pushNode, List.reverse_cons, appendNode_concat, List.reverse_append, List.reverse_reverse]

namespace Reader

theorem addText_eq {st : State} (hopened : st.opened.isEmpty = false) (value : List Char) :
    st.addText value = some { st with reversed := pushNode st.reversed (.text (.ofList value)) } := by
  rw [State.addText, if_neg (by simp [hopened])]
  split
  · rename_i before rest hreversed
    rw [hreversed, pushNode_cons]
    rfl
  · rename_i hnot
    cases hreversed : st.reversed with
    | nil => rfl
    | cons m reversed =>
      rw [pushNode_cons]
      cases m with
      | text before => exact absurd hreversed (hnot before reversed)
      | element tag k => rfl
      | comment value => rfl
      | instruction target data => rfl

/-! ## 2. The grammar

The grammar is a relation between tokens and nodes, in a scope.  Texts that touch are kept apart in it, and joined only
where an element is complete: so a token that spells a node always spells the same node, whatever stood before it. -/

/-- A token that spells a node on its own, with the identifiers used before it and after it. -/
inductive Spells (s : Scope) (ids : List String) : Token → Node → List String → Prop where
  | text {raw value : List Char} : decodeText raw = some value → Spells s ids (.text raw) (.text (.ofList value)) ids
  | literal (value : List Char) : Spells s ids (.literal value) (.text (.ofList value)) ids
  | comment (value : List Char) : Spells s ids (.comment value) (.comment (.ofList value)) ids
  | instruction (target data : List Char) :
      Spells s ids (.instruction target data) (.instruction (.ofList target) (dataOf data)) ids
  | emptyTag {name : RawName} {as : List RawAttribute} {t : Tag} {inner : Scope} {ids' : List String} :
      tag? s name as = some (t, inner) → useIds? ids t = some ids' →
      Spells s ids (.startTag name as true) (.element t []) ids'

/-- The nodes that tokens spell in a scope, texts that touch still apart, with the identifiers used before and after. -/
inductive Content : Scope → List String → List Token → List Node → List String → Prop where
  | nil {s : Scope} {ids : List String} : Content s ids [] [] ids
  | node {s : Scope} {ids ids₁ ids₂ : List String} {t : Token} {n : Node} {ts : List Token} {ns : List Node} :
      Spells s ids t n ids₁ → Content s ids₁ ts ns ids₂ → Content s ids (t :: ts) (n :: ns) ids₂
  | element {s inner : Scope} {ids ids₁ ids₂ ids₃ : List String} {name name' : RawName} {as : List RawAttribute}
      {t : Tag} {ts us : List Token} {k ns : List Node} :
      tag? s name as = some (t, inner) → useIds? ids t = some ids₁ → Content inner ids₁ ts k ids₂ →
      elementName? inner name' = some t.name → Content s ids₂ us ns ids₃ →
      Content s ids (.startTag name as false :: (ts ++ .endTag name' :: us)) (.element t (appendNodes [] k) :: ns) ids₃

/-! ## 3. Reading is complete

By induction on how the tokens spell the content: each token that spells a node is taken in one step, and between the
tags of an element the content of it is taken where the element is open. -/

/-- What has been read once an element has begun, which may have ended at once. -/
def State.begin (st : State) (t : Tag) (inner : Scope) (ids : List String) (isEmpty : Bool) : State :=
  if isEmpty then ⟨st.opened, .element t [] :: st.reversed, ids⟩ else ⟨⟨t, inner, st.reversed⟩ :: st.opened, [], ids⟩

theorem take_tag_eq_some {st st' : State} (hopened : st.opened.isEmpty = false) {name : RawName}
    {as : List RawAttribute} {isEmpty : Bool} : st.take (.startTag name as isEmpty) = some st' ↔
      ∃ t inner ids, tag? st.scope name as = some (t, inner) ∧ useIds? st.ids t = some ids ∧
        st' = st.begin t inner ids isEmpty := by
  rw [State.take, if_neg (by simp [hopened])]
  constructor
  · intro h
    obtain ⟨⟨t, inner⟩, htag, h⟩ := Option.bind_eq_some_iff.mp h
    obtain ⟨ids, hids, h⟩ := Option.bind_eq_some_iff.mp h
    refine ⟨t, inner, ids, htag, hids, ?_⟩
    cases isEmpty with
    | true => exact (Option.some.inj h).symm
    | false => exact (Option.some.inj h).symm
  · rintro ⟨t, inner, ids, htag, hids, rfl⟩
    simp only [htag, hids, Option.bind_eq_bind, Option.bind_some]
    cases isEmpty <;> rfl

/-- A token that spells a node adds the node to what has been read. -/
theorem Spells.take {st : State} {t : Token} {n : Node} {ids : List String} (h : Spells st.scope st.ids t n ids)
    (hopened : st.opened.isEmpty = false) : st.take t = some { st with reversed := pushNode st.reversed n, ids } := by
  cases h with
  | text hvalue => simp [State.take, hopened, hvalue, addText_eq hopened]
  | literal value => exact addText_eq hopened value
  | comment value =>
    rw [pushNode_of_not_text rfl]
    rfl
  | instruction target data =>
    rw [pushNode_of_not_text rfl]
    rfl
  | emptyTag htag hids =>
    rw [pushNode_of_not_text rfl]
    exact (take_tag_eq_some hopened).mpr ⟨_, _, ids, htag, hids, rfl⟩

/-- A start tag opens its element. -/
theorem take_open {st : State} (hopened : st.opened.isEmpty = false) {name : RawName} {as : List RawAttribute}
    {t : Tag} {inner : Scope} (htag : tag? st.scope name as = some (t, inner)) {ids : List String}
    (hids : useIds? st.ids t = some ids) :
    st.take (.startTag name as false) = some ⟨⟨t, inner, st.reversed⟩ :: st.opened, [], ids⟩ :=
  (take_tag_eq_some hopened).mpr ⟨t, inner, ids, htag, hids, rfl⟩

/-- **Tokens that spell a content are taken**, and what they spell comes after what has been read. -/
theorem Content.foldlM_take {s : Scope} {ids ids' : List String} {ts : List Token} {ns : List Node}
    (h : Content s ids ts ns ids') {st : State} (hopened : st.opened.isEmpty = false) (hs : st.scope = s)
    (hids : st.ids = ids) :
    ts.foldlM State.take st = some ⟨st.opened, (appendNodes st.reversed.reverse ns).reverse, ids'⟩ := by
  induction h generalizing st with
  | nil =>
    subst hids
    show some st = _
    rw [appendNodes, List.foldl_nil, List.reverse_reverse]
  | @node s ids ids₁ ids₂ t n ts ns hn _ ih =>
    subst hs hids
    have hrest := @ih { st with reversed := pushNode st.reversed n, ids := ids₁ } hopened rfl rfl
    rw [List.foldlM_cons, hn.take hopened]
    simp only [Option.bind_eq_bind, Option.bind_some, hrest]
    rw [pushNode, List.reverse_reverse]
    rfl
  | @element s inner ids ids₁ ids₂ ids₃ name name' as t ts us k ns htag huse _ hend _ ihinside ihrest =>
    subst hs hids
    have hinside := @ihinside ⟨⟨t, inner, st.reversed⟩ :: st.opened, [], ids₁⟩ rfl rfl rfl
    have hclose : State.take ⟨⟨t, inner, st.reversed⟩ :: st.opened, (appendNodes [] k).reverse, ids₂⟩ (.endTag name') =
        some { st with reversed := pushNode st.reversed (.element t (appendNodes [] k)), ids := ids₂ } := by
      rw [Reader.take_endTag (o := ⟨t, inner, st.reversed⟩) rfl hend, pushNode_of_not_text rfl, List.reverse_reverse]
    have hrest := @ihrest { st with reversed := pushNode st.reversed (.element t (appendNodes [] k)), ids := ids₂ }
      hopened rfl rfl
    rw [List.foldlM_cons, take_open hopened htag huse]
    simp only [Option.bind_eq_bind, Option.bind_some, List.foldlM_append, hinside, List.foldlM_cons, List.reverse_nil,
      hclose, hrest]
    rw [pushNode, List.reverse_reverse]
    rfl

/-! ## 4. Reading is sound

The opposite direction has to find the end of each element among the tokens.  Its measure is the number of tokens, as an
element that begins may take any number of them.  When the root has been closed, no element is opened or closed any
more, so that the tokens left over cannot be an end tag. -/

/-- What a token does where an element is open: it spells a node, it begins an element, or it ends one. -/
theorem take_cases {st st' : State} {token : Token} (hopened : st.opened.isEmpty = false)
    (h : st.take token = some st') :
    (∃ n ids, Spells st.scope st.ids token n ids ∧ st' = { st with reversed := pushNode st.reversed n, ids }) ∨
    (∃ name as t inner ids, token = .startTag name as false ∧ tag? st.scope name as = some (t, inner) ∧
      useIds? st.ids t = some ids ∧ st' = ⟨⟨t, inner, st.reversed⟩ :: st.opened, [], ids⟩) ∨
    ∃ name o opened, token = .endTag name ∧ st.opened = o :: opened ∧ elementName? o.scope name = some o.tag.name ∧
      st' = { st with opened, reversed := .element o.tag st.reversed.reverse :: o.before } := by
  cases token with
  | startTag name as isEmpty =>
    obtain ⟨t, inner, ids, htag, hids, rfl⟩ := (take_tag_eq_some hopened).mp h
    cases isEmpty with
    -- An empty tag is a node, any other tag begins one.
    | true => exact .inl ⟨_, ids, .emptyTag htag hids, by rw [pushNode_of_not_text rfl]; rfl⟩
    | false => exact .inr (.inl ⟨name, as, t, inner, ids, rfl, htag, hids, rfl⟩)
  | endTag name =>
    rw [State.take] at h
    split at h
    · rename_i o opened hst
      split at h
      · rename_i hname
        cases h
        exact .inr (.inr ⟨name, o, opened, rfl, hst, hname, rfl⟩)
      · cases h
    · cases h
  | text raw =>
    rw [State.take, if_neg (by simp [hopened])] at h
    obtain ⟨value, hvalue, h⟩ := Option.bind_eq_some_iff.mp h
    rw [addText_eq hopened] at h
    cases h
    exact .inl ⟨_, _, .text hvalue, rfl⟩
  | literal value =>
    rw [State.take, addText_eq hopened] at h
    cases h
    exact .inl ⟨_, _, .literal value, rfl⟩
  | comment value =>
    cases h
    exact .inl ⟨_, _, .comment value, by rw [pushNode_of_not_text rfl]; rfl⟩
  | instruction target data =>
    cases h
    exact .inl ⟨_, _, .instruction target data, by rw [pushNode_of_not_text rfl]; rfl⟩

/-- An end tag closes the innermost element. -/
theorem closed_of_take {st st' : State} {name : RawName} {o : Opened} {opened : List Opened}
    (hopened : st.opened = o :: opened) (h : st.take (.endTag name) = some st') :
    st' = { st with opened, reversed := .element o.tag st.reversed.reverse :: o.before } := by
  rcases take_cases (by simp [hopened]) h with ⟨n, ids, hspells, -⟩ | ⟨name', as', t, inner, ids, heq, -⟩ |
    ⟨name', o', opened', -, heq, -, rfl⟩
  · cases hspells
  · cases heq
  · obtain ⟨rfl, rfl⟩ := List.cons.inj (hopened.symm.trans heq)
    rfl

/-- **What is taken until the innermost element is closed spells a content**, up to the end tag of the element. -/
theorem exists_content {ts : List Token} {st st' : State} {o : Opened} {opened : List Opened}
    (hopened : st.opened = o :: opened) (h : ts.foldlM State.take st = some st')
    (hclosed : st'.opened.length < st.opened.length) :
    ∃ inside name rest ns ids, ts = inside ++ .endTag name :: rest ∧ Content st.scope st.ids inside ns ids ∧
      elementName? o.scope name = some o.tag.name ∧
      rest.foldlM State.take ⟨opened, .element o.tag (appendNodes st.reversed.reverse ns) :: o.before, ids⟩ =
        some st' := by
  -- An element that begins may take any number of the tokens, so the induction is on their number.
  induction hn : ts.length using Nat.strongRecOn generalizing ts st o opened with
  | ind n ih =>
  cases ts with
  | nil =>
    cases h
    exact absurd hclosed (Nat.lt_irrefl _)
  | cons token ts =>
    have hsome : st.opened.isEmpty = false := by simp [hopened]
    subst hn
    rw [List.foldlM_cons] at h
    obtain ⟨next, hnext, h⟩ := Option.bind_eq_some_iff.mp h
    rcases take_cases hsome hnext with ⟨n, ids, hspells, rfl⟩ | ⟨name, as, t, inner, ids, rfl, htag, hids, rfl⟩ |
      ⟨name, o', opened', rfl, hst, hname, rfl⟩
    · obtain ⟨inside, name, rest, ns, ids', rfl, hcontent, hend, hrest⟩ :=
        @ih ts.length (by simp) ts { st with reversed := pushNode st.reversed n, ids } o opened hopened h hclosed rfl
      refine ⟨token :: inside, name, rest, n :: ns, ids', rfl, .node hspells hcontent, hend, ?_⟩
      rw [← hrest]
      show rest.foldlM State.take
        ⟨opened, .element o.tag (appendNodes (appendNode st.reversed.reverse n) ns) :: _, ids'⟩ = _
      rw [pushNode, List.reverse_reverse]
    · have hdeeper : st'.opened.length < st.opened.length + 1 := Nat.lt_succ_of_lt hclosed
      obtain ⟨inside, name', rest, k, ids', rfl, hcontent, hend, hrest⟩ :=
        @ih ts.length (by simp) ts _ ⟨t, inner, st.reversed⟩ st.opened rfl h hdeeper rfl
      obtain ⟨inside', name'', rest', ns, ids'', rfl, hcontent', hend', hrest'⟩ :=
        @ih rest.length (by simp; omega) rest
          ⟨st.opened, .element t (appendNodes [].reverse k) :: st.reversed, ids'⟩ o opened hopened hrest hclosed rfl
      refine ⟨.startTag name as false :: (inside ++ .endTag name' :: inside'), name'', rest',
        .element t (appendNodes [] k) :: ns, ids'', by simp, .element htag hids hcontent hend hcontent', hend', ?_⟩
      have happend : appendNodes st.reversed.reverse (.element t (appendNodes [] k) :: ns) =
          appendNodes (Node.element t (appendNodes [] k) :: st.reversed).reverse ns := by
        rw [appendNodes, List.foldl_cons, appendNode_of_not_text rfl, List.reverse_cons]
        rfl
      rw [happend]
      exact hrest'
    · obtain ⟨rfl, rfl⟩ : o = o' ∧ opened = opened' := by simpa [hopened] using hst
      exact ⟨[], name, ts, [], st.ids, rfl, .nil, hname, h⟩

/-- Once the root has been read no element begins or ends any more. -/
theorem take_closed {st st' : State} {token : Token} (hopened : st.opened = [])
    (hroot : st.reversed.any Node.isElement = true) (h : st.take token = some st') :
    st'.opened = [] ∧ st'.reversed.any Node.isElement = true ∧ ∀ name, token ≠ .endTag name := by
  have hnotEnd {other : Token} (hother : other.isTag = false) : ∀ name, other ≠ .endTag name := by
    rintro name rfl
    cases hother
  cases takes_of_take h with
  | blanks => exact ⟨hopened, hroot, hnotEnd rfl⟩
  | joins _ hopen _ => exact absurd hopened hopen
  | adds htoken _ _ => exact ⟨hopened, by simp [State.add, hroot], hnotEnd htoken⟩
  | single hfirst _ => cases hroot.symm.trans (hfirst hopened)
  | opens hfirst _ => cases hroot.symm.trans (hfirst hopened)
  | closes hinside => cases hopened.symm.trans hinside

/-- What one token keeps when the root has been read, all of them keep. -/
theorem foldlM_closed {st st' : State} {ts : List Token} (hopened : st.opened = [])
    (hroot : st.reversed.any Node.isElement = true) (h : ts.foldlM State.take st = some st') :
    st'.opened = [] ∧ st'.reversed.any Node.isElement = true :=
  foldlM_induction (P := fun st => st.opened = [] ∧ st.reversed.any Node.isElement = true)
    (fun hst h => ⟨(take_closed hst.1 hst.2 h).1, (take_closed hst.1 hst.2 h).2.1⟩) ⟨hopened, hroot⟩ h

/-- So the last token that is taken is not an end tag then. -/
theorem not_endTag_of_closed {st st' : State} {ts : List Token} {name : RawName} (hopened : st.opened = [])
    (hroot : st.reversed.any Node.isElement = true) : (ts ++ [Token.endTag name]).foldlM State.take st ≠ some st' := by
  intro h
  rw [List.foldlM_append] at h
  obtain ⟨last, hlast, h⟩ := Option.bind_eq_some_iff.mp h
  rw [List.foldlM_cons] at h
  obtain ⟨next, hnext, -⟩ := Option.bind_eq_some_iff.mp h
  obtain ⟨hopened', hroot'⟩ := foldlM_closed hopened hroot hlast
  exact (take_closed hopened' hroot' hnext).2.2 name rfl

/-- The text is well-formed content in a scope, with these nodes. -/
def IsContent (s : Scope) (text : List Char) (nodes : List Node) : Prop :=
  ∃ ts ns ids, Token.Divided text ts ∧ Content s [] ts ns ids ∧ nodes = appendNodes [] ns

/-- What is read of a token can stand alone. -/
theorem Spells.apart {s : Scope} {ids ids' : List String} {t : Token} {n : Node} (h : Spells s ids t n ids') :
    Apart [n] := by
  cases h with
  | text _ => exact .text (by simp) .nil
  | literal _ => exact .text (by simp) .nil
  | comment _ => exact .comment .nil
  | instruction _ _ => exact .instruction .nil
  | emptyTag _ _ => exact .element .nil .nil

theorem Content.apart {s : Scope} {ids ids' : List String} {ts : List Token} {ns : List Node}
    (h : Content s ids ts ns ids') : ∀ n ∈ ns, Apart [n] := by
  induction h with
  | nil => exact fun n hn => absurd hn List.not_mem_nil
  | node hn _ ih => exact List.forall_mem_cons.mpr ⟨hn.apart, ih⟩
  | element _ _ _ _ _ ihinside ih =>
    exact List.forall_mem_cons.mpr ⟨.element (Apart.appendNodes .nil ihinside) .nil, ih⟩

theorem IsContent.apart {s : Scope} {text : List Char} {nodes : List Node} (h : IsContent s text nodes) :
    Apart nodes := by
  obtain ⟨ts, ns, ids, -, hcontent, rfl⟩ := h
  exact Apart.appendNodes .nil hcontent.apart

end Reader

end Xml

/-! ## 5. Fragments

The wrapper is one element, so what is read in it is decided by the grammar.  The token that closes it is the last one.
-/

namespace Fragment

open Xml (Node QName Tag Token)
open Xml.Reader (IsContent State)

variable {r : Root}

/-- **Well-formed content is read as its nodes**, in the wrapper. -/
theorem readChars_of_content (hprefixes : r.NamesPrefixes) (hadmits : r.AdmitsFragments) {text : String}
    {nodes : List Node} (h : IsContent r.fragmentScope text.toList nodes) :
    ∃ t, Xml.Reader.readChars (wrap r text).toList = some ⟨[.element t nodes]⟩ := by
  obtain ⟨ts, ns, ids, hdivided, hcontent, rfl⟩ := h
  have hscan := Token.scan_append_close.mpr ⟨ts, Token.scan_eq_some.mpr hdivided, rfl⟩
  have htokens : ∀ fuel, (text.toList ++ "</rewrite-fragment>".toList).length ≤ fuel →
      Token.scanFrom fuel (text.toList ++ "</rewrite-fragment>".toList) =
        some (ts ++ [.endTag ⟨"", "rewrite-fragment"⟩]) := by
    intro fuel hfuel
    rw [Token.scanFrom_eq_scan hfuel]
    exact hscan
  have hnodes (t : Tag) : ts.foldlM State.take (within r t) =
      some { within r t with reversed := (Xml.appendNodes [] ns).reverse, ids } := hcontent.foldlM_take rfl rfl rfl
  exact readChars_of_tokens hprefixes hadmits htokens hnodes

/-- Read, stripped of what lays it out. -/
theorem read_of_content (hprefixes : r.NamesPrefixes) (hadmits : r.AdmitsFragments) {text : String}
    {nodes : List Node} (h : IsContent r.fragmentScope text.toList nodes) : read r text = .ok (strip nodes) := by
  obtain ⟨t, hdocument⟩ := readChars_of_content hprefixes hadmits h
  rw [read_eq, hdocument]
  rfl

/-- What has been read of a text before its wrapper ends. -/
theorem content_of_foldlM {text : List Char} {t : Tag} {tokens : List Token} {st : State}
    (hscan : Token.scan? (text ++ Token.close) = some tokens) (hst : tokens.foldlM State.take (within r t) = some st)
    (hclosed : st.opened = []) : ∃ nodes, IsContent r.fragmentScope text nodes := by
  obtain ⟨us, hus, rfl⟩ := Token.scan_append_close.mp hscan
  obtain ⟨inside, name, rest, ns, ids, htokens, hcontent, -, hrest⟩ :=
    Xml.Reader.exists_content (o := ⟨t, r.fragmentScope, []⟩) rfl hst (by rw [hclosed]; exact Nat.zero_lt_one)
  -- If the wrapper ended earlier, its end tag would be left over.
  rcases List.eq_nil_or_concat rest with rfl | ⟨rest, last, rfl⟩
  · obtain ⟨rfl, -⟩ := List.append_inj' htokens rfl
    exact ⟨_, us, ns, ids, Token.scan_eq_some.mp hus, hcontent, rfl⟩
  · have hlast : us ++ [.endTag ⟨"", "rewrite-fragment"⟩] = (inside ++ .endTag name :: rest) ++ [last] := by
      rw [htokens]
      simp
    obtain ⟨-, hend⟩ := List.append_inj' hlast rfl
    cases hend
    rw [List.concat_eq_append] at hrest
    exact absurd hrest (Xml.Reader.not_endTag_of_closed rfl rfl)

/-- **Nothing else is read.** -/
theorem readChars_of_not_content (hprefixes : r.NamesPrefixes) {text : String}
    (h : ∀ nodes, ¬ IsContent r.fragmentScope text.toList nodes) :
    Xml.Reader.readChars (wrap r text).toList = none := by
  obtain ⟨fuel, hfuel, hread⟩ := readChars_wrap hprefixes text
  rw [Option.eq_none_iff_forall_ne_some]
  intro d hd
  rw [hread] at hd
  obtain ⟨attributes, hattributes, hd⟩ := Option.bind_eq_some_iff.mp hd
  obtain ⟨tokens, htokens, hd⟩ := Option.bind_eq_some_iff.mp hd
  obtain ⟨st, hst, hd⟩ := Option.bind_eq_some_iff.mp hd
  obtain ⟨q, hq⟩ := exists_wrapperName r
  rw [List.foldlM_cons, take_wrapper hattributes hq] at hst
  have hclosed : st.opened = [] := by
    rw [State.document?] at hd
    split at hd
    · rename_i hclosed
      exact List.isEmpty_iff.mp (Bool.and_eq_true_iff.mp hclosed).1
    · cases hd
  rw [Token.scanFrom_eq_scan hfuel] at htokens
  obtain ⟨nodes, hnodes⟩ := content_of_foldlM htokens hst hclosed
  exact h nodes hnodes

/-- What tokens make in the wrapper while nothing else is open is the content that they spell. -/
theorem isContent_of_foldlM {text : List Char} {tokens : List Token} {q : QName} {nodes : List Node} {ids : List String}
    (hq : Xml.Reader.elementName? r.fragmentScope ⟨"", "rewrite-fragment"⟩ = some q)
    (hdivided : Token.Divided text tokens)
    (h : tokens.foldlM State.take (within r (.plain q)) =
      some { within r (.plain q) with reversed := nodes.reverse, ids }) :
    IsContent r.fragmentScope text nodes := by
  have hscan := Token.scan_eq_some.mpr hdivided
  have hclose : (tokens ++ [Token.endTag ⟨"", "rewrite-fragment"⟩]).foldlM State.take (within r (.plain q)) =
      some ⟨[], [.element (.plain q) nodes], ids⟩ := by
    have hend : State.take { within r (.plain q) with reversed := nodes.reverse, ids }
        (.endTag ⟨"", "rewrite-fragment"⟩) =
        some ⟨[], [.element (.plain q) nodes], ids⟩ := by
      rw [Xml.Reader.take_endTag (o := ⟨.plain q, r.fragmentScope, []⟩) rfl hq, List.reverse_reverse]
    rw [List.foldlM_append, h]
    simp only [Option.bind_eq_bind, Option.bind_some, List.foldlM_cons, List.foldlM_nil, hend]
    rfl
  obtain ⟨others, hothers⟩ := content_of_foldlM (Token.scan_append_close.mpr ⟨tokens, hscan, rfl⟩) hclose rfl
  obtain ⟨ts, ns, ids', hts, hcontent, hothers⟩ := hothers
  -- The text is divided and the tokens are taken in one way only.
  obtain rfl : ts = tokens := Option.some.inj ((Token.scan_eq_some.mpr hts).symm.trans hscan)
  have hfold := @Xml.Reader.Content.foldlM_take _ _ _ _ _ hcontent (within r (.plain q)) rfl rfl rfl
  rw [h] at hfold
  have hnodes : nodes.reverse = (Xml.appendNodes [] ns).reverse := congrArg State.reversed (Option.some.inj hfold)
  exact ⟨ts, ns, ids', hts, hcontent, List.reverse_injective hnodes⟩

/-- The error names the fragment itself, not the wrapper. -/
theorem read_of_not_content (hprefixes : r.NamesPrefixes) {text : String}
    (h : ∀ nodes, ¬ IsContent r.fragmentScope text.toList nodes) : read r text = .error (.fragmentSyntax text) := by
  rw [read_eq, readChars_of_not_content hprefixes h]
  rfl

end Fragment

end Regraft
