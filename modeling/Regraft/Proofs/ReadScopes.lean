import Regraft.Proofs.Scopes
import Regraft.Xml.Reader
/-!
# What names stand for in a document that is read

Reading takes token after token, and what a token can do to the state is said once (`State.Takes`, `takes_of_take`), so
that an invariant of reading is a case analysis on that.  `State.Resolved` is what every token keeps: each name that has
been read got its namespace from a declaration in force where it stands (`resolved_take`).  `State.Rooted t` says that
the root has the tag `t`, which no later token changes (`rooted_take`).  From both follows what is known about the
content of a document whose first start tag is known: every name in it stands for what that tag's declarations, and
those below it, make it stand for (`resolved_of_startTag`).

Both are invariants of the state alone.  Nothing is said about how the tokens came to be, so the result holds of every
text that begins with the start tag, the wrapper of a fragment among them.
-/

namespace Regraft.Xml

open Reader

/-- The names of a tag stand for what the declarations in force make them stand for. -/
def Scope.Resolves (s : Scope) (t : Tag) : Prop :=
  (∃ p, s.resolve? p = some t.name.uri) ∧
    ∀ a ∈ t.attributes, a.name.uri = "" ∨ ∃ p, p ≠ "" ∧ s.resolve? p = some a.name.uri

/-- All names in a node stand for what the declarations in force make them stand for. -/
abbrev Node.Resolved : Scope → Node → Prop := Throughout (fun s t => t.declarations.reverse ++ s) Scope.Resolves

/-! ## 1. Tags

A start tag makes its declarations first.  Then its own name and those of its attributes are looked up, and an attribute
without a prefix has no namespace. -/

/-- The name of an element has the namespace of its prefix. -/
theorem elementName_resolve {s : Scope} {n : RawName} {q : QName} (h : elementName? s n = some q) :
    s.resolve? n.namespacePrefix = some q.uri := by
  rw [elementName?, Option.map_eq_some_iff] at h
  obtain ⟨uri, huri, rfl⟩ := h
  exact huri

/-- An attribute has the namespace of its prefix, or none. -/
theorem attribute_resolve {s : Scope} {raw : RawAttribute} {a : Attribute} (h : attribute? s raw = some a) :
    a.name.uri = "" ∨ ∃ p, p ≠ "" ∧ s.resolve? p = some a.name.uri := by
  rw [attribute?] at h
  obtain ⟨name, hname, h⟩ := Option.bind_eq_some_iff.mp h
  obtain ⟨value, -, h⟩ := Option.bind_eq_some_iff.mp h
  cases h
  rw [attributeName?] at hname
  split at hname
  · cases hname
    exact .inl rfl
  · rename_i hspelled
    refine .inr ⟨raw.name.namespacePrefix, fun hempty => hspelled ?_, elementName_resolve hname⟩
    rw [hempty]
    rfl

theorem mem_of_mapM_some {α β : Type} {f : α → Option β} {as : List α} {bs : List β} (h : as.mapM f = some bs)
    {b : β} (hb : b ∈ bs) : ∃ a ∈ as, f a = some b := by
  induction as generalizing bs with
  | nil =>
    cases h
    cases hb
  | cons a as ih =>
    rw [List.mapM_cons] at h
    obtain ⟨c, hc, h⟩ := Option.bind_eq_some_iff.mp h
    obtain ⟨cs, hcs, h⟩ := Option.bind_eq_some_iff.mp h
    cases h
    rcases List.mem_cons.mp hb with rfl | hb
    · exact ⟨a, List.mem_cons_self, hc⟩
    · obtain ⟨a', ha', hb⟩ := ih hcs hb
      exact ⟨a', List.mem_cons_of_mem _ ha', hb⟩

/-- A start tag makes its declarations before its own names are looked up. -/
theorem tag_inv {outer scope : Scope} {name : RawName} {attributes : List RawAttribute} {t : Tag}
    (h : tag? outer name attributes = some (t, scope)) :
    t.declarations = attributes.filterMap declaration? ∧ scope = t.declarations.reverse ++ outer ∧
      scope.Resolves t := by
  rw [tag?] at h
  dsimp only at h
  split at h
  · cases h
  · obtain ⟨qualified, hqualified, h⟩ := Option.bind_eq_some_iff.mp h
    obtain ⟨q, hq, h⟩ := Option.bind_eq_some_iff.mp h
    cases h
    refine ⟨rfl, rfl, ⟨_, elementName_resolve hq⟩, fun a ha => ?_⟩
    obtain ⟨raw, -, hraw⟩ := mem_of_mapM_some hqualified ha
    exact attribute_resolve hraw

/-- Whether a token begins or ends an element. -/
def Token.isTag : Token → Bool
  | .startTag _ _ _ => true
  | .endTag _ => true
  | _ => false

namespace Reader

/-! ## 2. Tokens

What a token can do, with the conditions under which it does.  Start tags and end tags open and close elements; all
other tokens leave the elements that are open as they are. -/

/-- A token that is taken leads from one state to another. -/
inductive State.Takes (st : State) : Token → State → Prop
  /-- White space around the root is passed over. -/
  | blanks {raw : List Char} (hopened : st.opened = []) : Takes st (.text raw) st
  /-- A text becomes one with the text that it follows. -/
  | joins {token : Token} {before value : String} {rest : List Node} (htoken : token.isTag = false)
      (hopened : st.opened ≠ []) (hreversed : st.reversed = .text before :: rest) :
      Takes st token { st with reversed := .text value :: rest }
  /-- Any other node that is no element comes after what has been read. -/
  | adds {token : Token} {n : Node} (htoken : token.isTag = false) (hn : n.isElement = false)
      (htext : n.isText = true → st.opened ≠ [] ∧ ∀ m ∈ st.reversed.head?, m.isText = false) :
      Takes st token (st.add n)
  /-- An empty tag is an element.  Outside there is only one. -/
  | single {name : RawName} {attributes : List RawAttribute} {t : Tag} {scope : Scope} {ids : List String}
      (hroot : st.opened = [] → st.reversed.any Node.isElement = false)
      (htag : tag? st.scope name attributes = some (t, scope)) :
      Takes st (.startTag name attributes true) { st with reversed := .element t [] :: st.reversed, ids }
  /-- Any other start tag opens an element. -/
  | opens {name : RawName} {attributes : List RawAttribute} {t : Tag} {scope : Scope} {ids : List String}
      (hroot : st.opened = [] → st.reversed.any Node.isElement = false)
      (htag : tag? st.scope name attributes = some (t, scope)) :
      Takes st (.startTag name attributes false)
        { opened := ⟨t, scope, st.reversed⟩ :: st.opened, reversed := [], ids }
  /-- An end tag closes the innermost element. -/
  | closes {name : RawName} {o : Opened} {opened : List Opened} (hopened : st.opened = o :: opened) :
      Takes st (.endTag name) { st with opened, reversed := .element o.tag st.reversed.reverse :: o.before }

theorem takes_of_addText {st st' : State} {token : Token} (htoken : token.isTag = false) {value : List Char}
    (h : st.addText value = some st') : st.Takes token st' := by
  rw [State.addText] at h
  split at h
  · cases h
  · rename_i hopened
    have hopened : st.opened ≠ [] := by simpa using hopened
    split at h
    · rename_i before rest hreversed
      cases h
      exact .joins htoken hopened hreversed
    · rename_i nodes hnot
      cases h
      refine .adds htoken rfl fun _ => ⟨hopened, fun m hm => ?_⟩
      cases m with
      | text before =>
        obtain ⟨rest, hrest⟩ := List.head?_eq_some_iff.mp hm
        exact (hnot before rest hrest).elim
      | element t k => rfl
      | comment value => rfl
      | instruction target data => rfl

theorem takes_of_take {st st' : State} {token : Token} (h : st.take token = some st') : st.Takes token st' := by
  cases token with
  | startTag name attributes isEmpty =>
    rw [State.take] at h
    split at h
    · cases h
    · rename_i hroot
      have hroot : st.opened = [] → st.reversed.any Node.isElement = false := fun hopened => by
        simpa [hopened] using hroot
      obtain ⟨⟨t, scope⟩, htag, h⟩ := Option.bind_eq_some_iff.mp h
      obtain ⟨ids, -, h⟩ := Option.bind_eq_some_iff.mp h
      cases isEmpty with
      | true =>
        cases h
        exact .single hroot htag
      | false =>
        cases h
        exact .opens hroot htag
  | endTag name =>
    rw [State.take] at h
    split at h
    · rename_i o opened hopened
      split at h
      · cases h
        exact .closes hopened
      · cases h
    · cases h
  | text raw =>
    rw [State.take] at h
    split at h
    · rename_i hopened
      split at h
      · cases h
        exact .blanks (List.isEmpty_iff.mp hopened)
      · cases h
    · obtain ⟨value, -, h⟩ := Option.bind_eq_some_iff.mp h
      exact takes_of_addText rfl h
  | literal value => exact takes_of_addText rfl h
  | comment value =>
    cases h
    exact .adds rfl rfl fun htext => nomatch htext
  | instruction target data =>
    cases h
    exact .adds rfl rfl fun htext => nomatch htext

/-! ## 3. Names

Elements that are open are on a stack, each with the scope inside it and with what had been read before it.  The
invariant follows the stack down: every level is resolved in the scope in which it began, and the scope of a level is
that of the level below with the declarations of one more tag. -/

/-- The names in all that has been read are resolved.  An element that is open was begun where what stands
before it had been read. -/
inductive State.Resolved : State → Prop
  | outside {nodes : List Node} {ids : List String} (h : ∀ n ∈ nodes, n.Resolved .outermost) :
      State.Resolved ⟨[], nodes, ids⟩
  | inside {o : Opened} {opened : List Opened} {nodes : List Node} {ids ids' : List String}
      (around : State.Resolved ⟨opened, o.before, ids'⟩)
      (hscope : o.scope = o.tag.declarations.reverse ++ State.scope ⟨opened, o.before, ids'⟩)
      (htag : o.scope.Resolves o.tag) (h : ∀ n ∈ nodes, n.Resolved o.scope) :
      State.Resolved ⟨o :: opened, nodes, ids⟩

namespace State.Resolved

variable {st : State}

theorem nodes (h : st.Resolved) : ∀ n ∈ st.reversed, n.Resolved st.scope := by
  cases h with
  | outside h => exact h
  | inside _ _ _ h => exact h

/-- What is read where reading stands may be replaced. -/
theorem replace (h : st.Resolved) {nodes : List Node} (hnodes : ∀ n ∈ nodes, n.Resolved st.scope)
    (ids : List String) : State.Resolved ⟨st.opened, nodes, ids⟩ := by
  cases h with
  | outside _ => exact .outside hnodes
  | inside around hscope htag _ => exact .inside around hscope htag hnodes

theorem cons (h : st.Resolved) {n : Node} (hn : n.Resolved st.scope) (ids : List String) :
    State.Resolved ⟨st.opened, n :: st.reversed, ids⟩ :=
  h.replace (List.forall_mem_cons.mpr ⟨hn, h.nodes⟩) ids

end State.Resolved

/-- Every token keeps the names resolved. -/
theorem resolved_take {st st' : State} (h : st.Resolved) {token : Token} (hst : st.take token = some st') :
    st'.Resolved := by
  cases takes_of_take hst with
  | blanks => exact h
  | joins _ _ hreversed =>
    refine h.replace (List.forall_mem_cons.mpr ⟨.text _, fun n hn => h.nodes n ?_⟩) _
    rw [hreversed]
    exact List.mem_cons_of_mem _ hn
  | @adds _ n _ hn _ =>
    refine h.cons ?_ _
    cases n with
    | element t k => cases hn
    | text value => exact .text _
    | comment value => exact .comment _
    | instruction target data => exact .instruction _ _
  | single _ htag =>
    obtain ⟨-, rfl, hresolves⟩ := tag_inv htag
    exact h.cons (.element hresolves fun n hn => absurd hn List.not_mem_nil) _
  | opens _ htag =>
    obtain ⟨-, rfl, hresolves⟩ := tag_inv htag
    exact .inside h rfl hresolves fun n hn => absurd hn List.not_mem_nil
  | closes hopened =>
    cases h with
    | outside _ => cases hopened
    | inside around hscope htag hnodes =>
      cases hopened
      -- What was read inside goes with the tag, in the scope that the tag has made.
      refine around.cons (.element (hscope ▸ htag) fun n hn => ?_) _
      rw [← hscope]
      exact hnodes n (List.mem_reverse.mp hn)

/-! ## 4. The root

The root is either the lowest element on the stack or the only element that has been read.  A start tag where nothing is
open, behind the root, is an error, and so no token can bring a second one. -/

/-- The root has the tag: it is open, and nothing but comments and instructions stands before it, or it has been
read and is the only element. -/
def State.Rooted (t : Tag) (st : State) : Prop :=
  (∃ o, st.opened.getLast? = some o ∧ o.tag = t ∧ o.before.filter Node.isElement = []) ∨
    st.opened = [] ∧ ∃ content, st.reversed.filter Node.isElement = [.element t content]

namespace State.Rooted

variable {t : Tag} {st st' : State}

/-- What is added where reading stands does not change the root if it is no element or an element is open. -/
theorem replace (h : st.Rooted t) {nodes : List Node}
    (hnodes : st.opened = [] → nodes.filter Node.isElement = st.reversed.filter Node.isElement)
    (ids : List String) : State.Rooted t ⟨st.opened, nodes, ids⟩ := by
  rcases h with h | ⟨hopened, content, hcontent⟩
  · exact .inl h
  · exact .inr ⟨hopened, content, (hnodes hopened).trans hcontent⟩

end State.Rooted

/-- No token changes the tag of the root. -/
theorem rooted_take {t : Tag} {st st' : State} (h : st.Rooted t) {token : Token}
    (hst : st.take token = some st') : st'.Rooted t := by
  -- Behind a root that has been read no element begins.
  have hclosed (hroot : st.opened = [] → st.reversed.any Node.isElement = false) :
      ∃ o, st.opened.getLast? = some o ∧ o.tag = t ∧ o.before.filter Node.isElement = [] := by
    rcases h with hopen | ⟨hopened, content, hcontent⟩
    · exact hopen
    · have hnone := List.any_eq_false.mp (hroot hopened)
      have hmem : Node.element t content ∈ st.reversed.filter Node.isElement := by simp [hcontent]
      exact absurd rfl (hnone _ (List.mem_filter.mp hmem).1)
  cases takes_of_take hst with
  | blanks => exact h
  | joins _ hopened _ => exact h.replace (fun hnil => absurd hnil hopened) _
  | adds _ hn _ => exact h.replace (fun _ => List.filter_cons_of_neg (by simp [hn])) _
  | single hroot _ => exact .inl (hclosed hroot)
  | opens hroot _ =>
    obtain ⟨o, ho, ht, hbefore⟩ := hclosed hroot
    refine .inl ⟨o, ?_, ht, hbefore⟩
    rw [List.getLast?_cons, ho]
    rfl
  | @closes _ o opened hopened =>
    rcases h with ⟨o', ho', ht, hbefore⟩ | ⟨hnil, -⟩
    · rw [hopened] at ho'
      cases opened with
      | nil =>
        -- The element that ends is the root itself: from here on it is read.
        obtain rfl : o = o' := by simpa using ho'
        subst ht
        exact .inr ⟨rfl, _, by rw [List.filter_cons_of_pos rfl, hbefore]⟩
      -- Another element ends, and the root is still open.
      | cons o₂ opened => exact .inl ⟨o', by simpa using ho', ht, hbefore⟩
    · cases hopened.symm.trans hnil

/-! ## 5. Documents

Both invariants are carried over all tokens, and at the end of the document nothing is open any more. -/

/-- What every token keeps, all tokens keep. -/
theorem foldlM_induction {P : State → Prop} (hP : ∀ {st st' token}, P st → State.take st token = some st' → P st')
    {tokens : List Token} {st st' : State} (h : P st) (hst : tokens.foldlM State.take st = some st') : P st' := by
  induction tokens generalizing st with
  | nil =>
    cases hst
    exact h
  | cons token tokens ih =>
    rw [List.foldlM_cons] at hst
    obtain ⟨next, hnext, hst⟩ := Option.bind_eq_some_iff.mp hst
    exact ih (hP h hnext) hst

/-- **The root of a document that begins with a start tag makes the declarations of that tag, and the names in
its content stand for what they make them stand for.** -/
theorem resolved_of_startTag {name : RawName} {attributes : List RawAttribute} {tokens : List Token}
    {st : State} {d : Document} {root : Node}
    (hst : (Token.startTag name attributes false :: tokens).foldlM State.take State.start = some st)
    (hd : st.document? = some d) (hroot : d.content.find? Node.isElement = some root) :
    ∀ n ∈ root.content, n.Resolved ((attributes.filterMap declaration?).reverse ++ Scope.outermost) := by
  -- Both invariants hold at the start, the second from the first token on.
  have hresolved : st.Resolved :=
    foldlM_induction (fun h hst => resolved_take h hst) (.outside fun n hn => absurd hn List.not_mem_nil) hst
  obtain ⟨t, hdeclarations, hrooted⟩ :
      ∃ t : Tag, t.declarations = attributes.filterMap declaration? ∧ st.Rooted t := by
    rw [List.foldlM_cons] at hst
    obtain ⟨first, hfirst, hst⟩ := Option.bind_eq_some_iff.mp hst
    rw [State.take] at hfirst
    split at hfirst
    · cases hfirst
    · obtain ⟨⟨t, scope⟩, htag, hfirst⟩ := Option.bind_eq_some_iff.mp hfirst
      obtain ⟨ids, -, hfirst⟩ := Option.bind_eq_some_iff.mp hfirst
      cases hfirst
      exact ⟨t, (tag_inv htag).1, foldlM_induction (fun h hst => rooted_take h hst) (.inl ⟨_, rfl, rfl, rfl⟩) hst⟩
  rw [State.document?] at hd
  split at hd
  · rename_i hclosed
    cases hd
    obtain ⟨hopened, -⟩ : st.opened.isEmpty = true ∧ _ := Bool.and_eq_true_iff.mp hclosed
    have hopened : st.opened = [] := List.isEmpty_iff.mp hopened
    rcases hrooted with ⟨o, ho, -⟩ | ⟨-, content, hcontent⟩
    · rw [hopened] at ho
      cases ho
    · have hfilter : root ∈ st.reversed.filter Node.isElement :=
        List.mem_filter.mpr ⟨List.mem_reverse.mp (List.mem_of_find?_eq_some hroot), List.find?_some hroot⟩
      have hmem : root ∈ st.reversed := (List.mem_filter.mp hfilter).1
      obtain rfl : root = .element t content := by simpa [hcontent] using hfilter
      have hscope : st.scope = Scope.outermost := by rw [State.scope, hopened]
      have hnode := hresolved.nodes _ hmem
      rw [hscope] at hnode
      cases hnode with
      | element _ hcontent =>
        rw [← hdeclarations]
        exact hcontent
  · cases hd

end Reader

end Regraft.Xml
