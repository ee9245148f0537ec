import Regraft.Proofs.ElementContent
import Regraft.Proofs.Pruning
/-!
# Contents that differ in one node

A context is a content with one node left open.  Two texts that are divided into the same tokens but for those of one
element are read as one context filled with different nodes: while the tokens after that element are taken, the states
differ in nothing but that node (`Uniform`).  An element that is still open may differ in its tag, as long as its name
stays, since an end tag asks for that alone.

A context also says how many elements begin before its open node, so that it tells which element of a text stands
there.

The statement is about a family of states, one for each value that may stand in the element, and not about two of them:
the context has to be the same for all values.  That is the reason for the parameter `α` in `Uniform`, and for the order
of quantifiers in its lemmas: if one state takes the token, there is one new family that all of them go over to.
-/

namespace Regraft.Xml

/-! ## 1. Contexts

The node that is left open must not be a text.  A text would be joined to a text beside it, and then the content around
it would depend on what is filled in. -/

/-- A content with one node left open, which is no text. -/
inductive Context where
  | here (left right : List Node)
  | inside (left : List Node) (tag : Tag) (context : Context) (right : List Node)

mutual

/-- The number of elements in a node, itself included. -/
def Node.elementCount : Node → Nat
  | .element _ content => contentElements content + 1
  | _ => 0

/-- The number of elements in a content, at every depth. -/
def contentElements : List Node → Nat
  | [] => 0
  | n :: rest => n.elementCount + contentElements rest

end

namespace Context

/-- The content with a node where it was left open. -/
def fill (n : Node) : Context → List Node
  | here left right => left ++ n :: right
  | inside left tag context right => left ++ .element tag (context.fill n) :: right

/-- The number of elements that begin before the open node. -/
def elementsBefore : Context → Nat
  | here left _ => contentElements left
  | inside left _ context _ => contentElements left + 1 + context.elementsBefore

/-- The context with a node after it. -/
def append (n : Node) : Context → Context
  | here left right => here left (appendNode right n)
  | inside left tag context right => inside left tag context (appendNode right n)

end Context

/-- Elements of two contents are counted one after the other. -/
theorem contentElements_append (c c' : List Node) :
    contentElements (c ++ c') = contentElements c + contentElements c' := by
  induction c with
  | nil => rw [List.nil_append, contentElements, Nat.zero_add]
  | cons n c ih => rw [List.cons_append, contentElements, contentElements, ih, Nat.add_assoc]

/-- A node after an element is joined to nothing. -/
theorem appendNode_append_cons {m : Node} (hm : m.isText = false) (n : Node) (left right : List Node) :
    appendNode (left ++ m :: right) n = left ++ m :: appendNode right n := by
  have hsingle : appendNode (m :: right) n = m :: appendNode right n := by
    cases right with
    | cons k right => rfl
    | nil =>
      cases m with
      | text value => cases hm
      | element t k => rfl
      | comment value => rfl
      | instruction target data => rfl
  induction left with
  | nil => exact hsingle
  | cons k left ih =>
    rw [List.cons_append, List.cons_append, ← ih]
    cases left <;> rfl

theorem isText_of_isElement {n : Node} (h : n.isElement = true) : n.isText = false := by
  cases n with
  | element t k => rfl
  | text value => cases h
  | comment value => rfl
  | instruction target data => rfl

namespace Context

variable {n : Node} {c : Context}

/-- A node after a filled context is one after the context. -/
theorem appendNode_fill (hn : n.isText = false) (m : Node) : appendNode (c.fill n) m = (c.append m).fill n := by
  cases c with
  | here left right => exact appendNode_append_cons hn m left right
  | inside left tag context right => exact appendNode_append_cons rfl m left right

theorem elementsBefore_append (m : Node) : (c.append m).elementsBefore = c.elementsBefore := by
  cases c <;> rfl

theorem any_isElement_fill (hn : n.isElement = true) : (c.fill n).any Node.isElement = true := by
  cases c with
  | here left right => simp [fill, hn]
  | inside left tag context right => simp [fill, Node.isElement]

end Context

/-- Whether a token begins an element. -/
def Token.isStartTag : Token → Bool
  | startTag _ _ _ => true
  | _ => false

namespace Reader

/-! ## 2. States that differ in one node

The node that differs has been read in the innermost element (`inner`), or in one that is open around it (`outer`), or
it is open itself and has a tag that differs (`opening`).  A token leads from one of these cases to another, and to the
same for all states. -/

/-- The number of elements that are open or stand before one that is. -/
def begun : List Opened → Nat
  | [] => 0
  | o :: opened => (contentElements o.before.reverse + 1) + begun opened

/-- The number of elements that have begun where reading stands. -/
def State.elements (st : State) : Nat := begun st.opened + contentElements st.reversed.reverse

variable {α : Type} {F : (α → Node) → Prop}

/-- The states differ in one node alone, which may still be open, and `k` elements begin before it.  The family of nodes
is one of `F`. -/
inductive Uniform (F : (α → Node) → Prop) (k : Nat) : (α → State) → Prop where
  | inner {opened : List Opened} {c : Context} {ids : List String} {n : α → Node} : F n →
      begun opened + c.elementsBefore = k → Uniform F k fun a => ⟨opened, (c.fill (n a)).reverse, ids⟩
  | outer {above below : List Opened} {t : Tag} {scope : Scope} {c : Context} {reversed : List Node}
      {ids : List String} {n : α → Node} : F n → begun below + c.elementsBefore = k →
      Uniform F k fun a => ⟨above ++ ⟨t, scope, (c.fill (n a)).reverse⟩ :: below, reversed, ids⟩
  | opening {above below : List Opened} {T : α → Tag} {name : QName} {scope : Scope} {before reversed : List Node}
      {ids : List String} : (∀ a, (T a).name = name) → (∀ content, F fun a => .element (T a) content) → below ≠ [] →
      begun below + contentElements before.reverse = k →
      Uniform F k fun a => ⟨above ++ ⟨T a, scope, before⟩ :: below, reversed, ids⟩

namespace Uniform

variable {k : Nat} {S : α → State}

/-- A node that differs has just ended. -/
theorem ends {n : α → Node} (hn : F n) (st : State) (ids : List String) :
    Uniform F st.elements fun a => ⟨st.opened, n a :: st.reversed, ids⟩ := by
  have hfill (a : α) : n a :: st.reversed = ((Context.here st.reversed.reverse []).fill (n a)).reverse := by
    simp [Context.fill]
  simp only [hfill]
  exact .inner hn rfl

/-- A node that differs in its tag has just begun. -/
theorem begins {T : α → Tag} {name : QName} (hname : ∀ a, (T a).name = name)
    (hcontent : ∀ content, F fun a => .element (T a) content) {st : State} (hopened : st.opened ≠ []) (inner : Scope)
    (ids : List String) (isEmpty : Bool) : Uniform F st.elements fun a => st.begin (T a) inner ids isEmpty := by
  cases isEmpty with
  | true => exact ends (hcontent []) st ids
  | false =>
    show Uniform F st.elements fun a => ⟨[] ++ ⟨T a, inner, st.reversed⟩ :: st.opened, [], ids⟩
    exact .opening hname hcontent hopened rfl

/-- The states are alike in all that the next token asks for. -/
theorem alike (h : Uniform F k S) (a b : α) :
    (S a).opened.isEmpty = (S b).opened.isEmpty ∧ (S a).scope = (S b).scope ∧ (S a).ids = (S b).ids := by
  cases h with
  | inner _ _ => exact ⟨rfl, rfl, rfl⟩
  | @outer above _ _ _ _ _ _ _ _ _ => cases above <;> exact ⟨rfl, rfl, rfl⟩
  | @opening above _ _ _ _ _ _ _ _ _ _ _ => cases above <;> exact ⟨rfl, rfl, rfl⟩

theorem push (hF : ∀ n, F n → ∀ a, (n a).isElement = true) (h : Uniform F k S) (m : Node) (ids : List String) :
    Uniform F k fun a => { S a with reversed := pushNode (S a).reversed m, ids } := by
  cases h with
  | @inner opened c _ n hn hk =>
    have hfill (a : α) : pushNode (c.fill (n a)).reverse m = ((c.append m).fill (n a)).reverse := by
      rw [pushNode, List.reverse_reverse, Context.appendNode_fill (isText_of_isElement (hF n hn a))]
    simp only [hfill]
    exact .inner hn (by rw [Context.elementsBefore_append]; exact hk)
  | @outer above below t scope c reversed _ n hn hk =>
    show Uniform F k fun a => ⟨above ++ ⟨t, scope, (c.fill (n a)).reverse⟩ :: below, pushNode reversed m, ids⟩
    exact .outer hn hk
  | @opening above below T name scope before reversed _ hname hcontent hbelow hk =>
    show Uniform F k fun a => ⟨above ++ ⟨T a, scope, before⟩ :: below, pushNode reversed m, ids⟩
    exact .opening hname hcontent hbelow hk

/-- An element begins in all of them. -/
theorem enter (h : Uniform F k S) (t : Tag) (scope : Scope) (ids : List String) :
    Uniform F k fun a => ⟨⟨t, scope, (S a).reversed⟩ :: (S a).opened, [], ids⟩ := by
  cases h with
  | @inner opened c _ n hn hk =>
    show Uniform F k fun a => ⟨[] ++ ⟨t, scope, (c.fill (n a)).reverse⟩ :: opened, [], ids⟩
    exact .outer hn hk
  | @outer above below t' scope' c reversed _ n hn hk =>
    show Uniform F k fun a =>
      ⟨(⟨t, scope, reversed⟩ :: above) ++ ⟨t', scope', (c.fill (n a)).reverse⟩ :: below, [], ids⟩
    exact .outer hn hk
  | @opening above below T name scope' before reversed _ hname hcontent hbelow hk =>
    show Uniform F k fun a => ⟨(⟨t, scope, reversed⟩ :: above) ++ ⟨T a, scope', before⟩ :: below, [], ids⟩
    exact .opening hname hcontent hbelow hk

/-- An element ends in all of them, if it does in one. -/
theorem leave (hF : ∀ n, F n → ∀ a, (n a).isElement = true) (h : Uniform F k S) {a₀ : α} {o : Opened}
    {opened : List Opened} (hopened : (S a₀).opened = o :: opened) {name : RawName}
    (hname : elementName? o.scope name = some o.tag.name) :
    ∃ S', Uniform F k S' ∧ ∀ a, (S a).take (.endTag name) = some (S' a) := by
  -- The element that ends has the node inside, or the node is among what it goes on, or it is the node itself.
  cases h with
  | @inner opened' c ids n hn hk =>
    obtain rfl : opened' = o :: opened := hopened
    refine ⟨fun a => ⟨opened, ((Context.inside o.before.reverse o.tag c []).fill (n a)).reverse, ids⟩,
      .inner hn ?_, fun a => ?_⟩
    · rw [← hk, begun, Context.elementsBefore]
      omega
    · rw [Reader.take_endTag rfl hname]
      simp [Context.fill]
  | @outer above below t scope c reversed ids n hn hk =>
    cases above with
    | nil =>
      obtain ⟨rfl, rfl⟩ := List.cons.inj hopened
      refine ⟨fun a => ⟨below, ((c.append (.element t reversed.reverse)).fill (n a)).reverse, ids⟩, .inner hn ?_,
        fun a => ?_⟩
      · rw [Context.elementsBefore_append]
        exact hk
      · have hfill :
            (c.append (.element t reversed.reverse)).fill (n a) = c.fill (n a) ++ [.element t reversed.reverse] := by
          rw [← Context.appendNode_fill (isText_of_isElement (hF n hn a)), appendNode_of_not_text rfl]
        rw [Reader.take_endTag (o := ⟨t, scope, (c.fill (n a)).reverse⟩) rfl hname]
        simp [hfill]
    | cons o' above =>
      obtain ⟨rfl, -⟩ := List.cons.inj hopened
      exact ⟨fun a => ⟨above ++ ⟨t, scope, (c.fill (n a)).reverse⟩ :: below,
        .element o'.tag reversed.reverse :: o'.before, ids⟩, .outer hn hk, fun a => Reader.take_endTag rfl hname⟩
  | @opening above below T name' scope before reversed ids hsame hcontent hbelow hk =>
    cases above with
    | nil =>
      obtain ⟨rfl, rfl⟩ := List.cons.inj hopened
      refine ⟨fun a => ⟨below, ((Context.here before.reverse []).fill (.element (T a) reversed.reverse)).reverse, ids⟩,
        .inner (hcontent reversed.reverse) hk, fun a => ?_⟩
      have hname : elementName? scope name = some (T a).name := by rw [hsame, ← hsame a₀]; exact hname
      rw [Reader.take_endTag rfl hname]
      simp [Context.fill]
    | cons o' above =>
      obtain ⟨rfl, -⟩ := List.cons.inj hopened
      exact ⟨fun a => ⟨above ++ ⟨T a, scope, before⟩ :: below, .element o'.tag reversed.reverse :: o'.before, ids⟩,
        .opening hsame hcontent hbelow hk, fun a => Reader.take_endTag rfl hname⟩

/-- **A token that one of the states takes is taken by all of them**, and they differ in one node still. -/
theorem take (hF : ∀ n, F n → ∀ a, (n a).isElement = true) (h : Uniform F k S) {a₀ : α}
    (hopened : (S a₀).opened.isEmpty = false) {token : Token} {st : State} (hst : (S a₀).take token = some st) :
    ∃ S', Uniform F k S' ∧ ∀ a, (S a).take token = some (S' a) := by
  rcases take_cases hopened hst with ⟨m, ids, hspells, -⟩ | ⟨name, as, t, scope, ids, rfl, htag, hids, -⟩ |
    ⟨name, o, os, rfl, hopen, hname, -⟩
  · refine ⟨_, h.push hF m ids, fun a => ?_⟩
    obtain ⟨hsome, hscope, hids⟩ := h.alike a a₀
    exact Spells.take (by rw [hscope, hids]; exact hspells) (hsome.trans hopened)
  · refine ⟨_, h.enter t scope ids, fun a => ?_⟩
    obtain ⟨hsome, hscope, hused⟩ := h.alike a a₀
    exact take_open (hsome.trans hopened) (by rw [hscope]; exact htag) (by rw [hused]; exact hids)
  · exact h.leave hF hopen hname

theorem any_isElement (hF : ∀ n, F n → ∀ a, (n a).isElement = true) (h : Uniform F k S) (a : α)
    (hopened : (S a).opened = []) : (S a).reversed.any Node.isElement = true := by
  cases h with
  | @inner opened c ids n hn hk =>
    rw [List.any_reverse]
    exact Context.any_isElement_fill (hF n hn a)
  | outer hn hk => simp at hopened
  | opening hname hcontent hbelow hk => simp at hopened

/-- **Tokens that one of the states takes are taken by all of them**, if the root is still open at the end. -/
theorem foldlM_take (hF : ∀ n, F n → ∀ a, (n a).isElement = true) (h : Uniform F k S) {a₀ : α} {tokens : List Token}
    {st : State} (hst : tokens.foldlM State.take (S a₀) = some st) (hopen : st.opened.isEmpty = false) :
    ∃ S', Uniform F k S' ∧ ∀ a, tokens.foldlM State.take (S a) = some (S' a) := by
  induction tokens generalizing S with
  | nil => exact ⟨S, h, fun a => rfl⟩
  | cons token tokens ih =>
    -- A root that has been closed is not opened again, so it is open all along.
    have hopened : (S a₀).opened.isEmpty = false := by
      rw [Bool.eq_false_iff, ne_eq, List.isEmpty_iff]
      intro hclosed
      obtain ⟨hend, -⟩ := foldlM_closed hclosed (h.any_isElement hF a₀ hclosed) hst
      rw [hend] at hopen
      cases hopen
    rw [List.foldlM_cons] at hst
    obtain ⟨next, hnext, hst⟩ := Option.bind_eq_some_iff.mp hst
    obtain ⟨S', hS', htake⟩ := h.take hF hopened hnext
    obtain rfl : S' a₀ = next := Option.some.inj ((htake a₀).symm.trans hnext)
    obtain ⟨S'', hS'', hrest⟩ := ih hS' hst
    refine ⟨S'', hS'', fun a => ?_⟩
    rw [List.foldlM_cons, htake a]
    exact hrest a

/-- Where a single element is open, the node that differs is in it. -/
theorem of_singleton (h : Uniform F k S) {a₀ : α} {o : Opened} (hopened : (S a₀).opened = [o])
    (hbefore : o.before = []) : ∃ (c : Context) (n : α → Node), F n ∧ c.elementsBefore + 1 = k ∧
      ∃ ids, ∀ a, S a = ⟨[o], (c.fill (n a)).reverse, ids⟩ := by
  cases h with
  | @inner opened c ids n hn hk =>
    obtain rfl : opened = [o] := hopened
    refine ⟨c, n, hn, ?_, ids, fun a => rfl⟩
    rw [← hk, begun, begun, hbefore, List.reverse_nil, contentElements]
    omega
  | @outer above below t scope c reversed ids n hn hk =>
    cases above with
    | nil =>
      obtain ⟨rfl, -⟩ := List.cons.inj hopened
      cases c <;> simp [Context.fill] at hbefore
    | cons o' above => simp at hopened
  | @opening above below T name scope before reversed ids hname hcontent hbelow hk =>
    cases above with
    | nil => exact absurd (List.cons.inj hopened).2 hbelow
    | cons o' above => simp at hopened

/-- So at the end of a content it is in a context, which is the same for all of them. -/
theorem exists_context (hF : ∀ n, F n → ∀ a, (n a).isElement = true) (h : Uniform F k S) (a₀ : α)
    {tokens : List Token} {o : Opened} {reversed : List Node} {ids : List String}
    (hst : tokens.foldlM State.take (S a₀) = some ⟨[o], reversed, ids⟩) (hbefore : o.before = []) :
    ∃ (c : Context) (n : α → Node), F n ∧ c.elementsBefore + 1 = k ∧
      ∃ ids, ∀ a, tokens.foldlM State.take (S a) = some ⟨[o], (c.fill (n a)).reverse, ids⟩ := by
  obtain ⟨S', hS', hfold⟩ := h.foldlM_take hF hst rfl
  have hopened : (S' a₀).opened = [o] := by rw [Option.some.inj ((hfold a₀).symm.trans hst)]
  obtain ⟨c, n, hn, hk, ids', hall⟩ := hS'.of_singleton hopened hbefore
  exact ⟨c, n, hn, hk, ids', fun a => by rw [hfold a, hall a]⟩

end Uniform

/-- Where an element is open at the end, one was open all along. -/
theorem opened_of_foldlM {tokens tokens' : List Token} {st₀ st st' : State} (hst₀ : st₀.opened.isEmpty = false)
    (h : tokens.foldlM State.take st₀ = some st) (h' : tokens'.foldlM State.take st = some st')
    (hst' : st'.opened.isEmpty = false) : st.opened.isEmpty = false := by
  have hroot : st.opened = [] → st.reversed.any Node.isElement = true := by
    refine foldlM_induction (P := fun st => st.opened = [] → st.reversed.any Node.isElement = true) ?_ ?_ h
    · intro st st' token hst htake hclosed
      by_cases hopened : st.opened = []
      · exact (take_closed hopened (hst hopened) htake).2.1
      · rcases take_cases (by simpa using hopened) htake with ⟨n, ids, -, rfl⟩ |
          ⟨name, as, t, inner, ids, -, -, -, rfl⟩ | ⟨name, o, opened, -, -, -, rfl⟩
        · exact absurd hclosed hopened
        · cases hclosed
        · simp [Node.isElement]
    · intro hclosed
      rw [hclosed] at hst₀
      cases hst₀
  rw [Bool.eq_false_iff, ne_eq, List.isEmpty_iff]
  intro hclosed
  obtain ⟨hend, -⟩ := foldlM_closed hclosed (hroot hclosed) h'
  rw [hend] at hst'
  cases hst'

/-! ## 3. Counting elements

To count elements is to count start tags.  So the place of an element in the content can be told from the text before
it. -/

theorem elements_cons (opened : List Opened) (n : Node) (reversed : List Node) (ids : List String) :
    State.elements ⟨opened, n :: reversed, ids⟩ = State.elements ⟨opened, reversed, ids⟩ + n.elementCount := by
  rw [State.elements, State.elements, List.reverse_cons, contentElements_append, contentElements, contentElements,
    Nat.add_zero, Nat.add_assoc]

/-- A token that begins no element and ends none leaves their number as it is. -/
theorem elements_of_not_tag {st : State} {token : Token} (htoken : token.isTag = false) {nodes : List Node}
    (hnodes : contentElements nodes.reverse = contentElements st.reversed.reverse) :
    State.elements { st with reversed := nodes } = st.elements + if token.isStartTag then 1 else 0 := by
  have hstart : token.isStartTag = false := by
    cases token <;> first | rfl | cases htoken
  rw [hstart, State.elements, State.elements, hnodes]
  rfl

/-- **Each start tag begins one element**, and no other token does. -/
theorem elements_take {st st' : State} {token : Token} (h : st.take token = some st') :
    st'.elements = st.elements + if token.isStartTag then 1 else 0 := by
  cases takes_of_take h with
  | blanks => rfl
  | joins htoken _ hreversed =>
    refine elements_of_not_tag htoken ?_
    rw [hreversed, List.reverse_cons, List.reverse_cons, contentElements_append, contentElements_append]
    rfl
  | @adds _ n htoken hn _ =>
    refine elements_of_not_tag htoken ?_
    rw [List.reverse_cons, contentElements_append]
    cases n with
    | element t k => cases hn
    | text value => rfl
    | comment value => rfl
    | instruction target data => rfl
  | single => exact elements_cons _ _ _ _
  | opens =>
    -- The content goes on the stack, with the new element open behind it.
    show (contentElements st.reversed.reverse + 1) + begun st.opened + 0 = _
    rw [State.elements]
    show _ = _ + 1
    omega
  | @closes _ o opened hopened =>
    rw [elements_cons, State.elements, State.elements, hopened]
    -- What was counted as open and as content is now one node of the content around it.
    show begun opened + contentElements o.before.reverse + (contentElements st.reversed.reverse + 1) =
      (contentElements o.before.reverse + 1) + begun opened + contentElements st.reversed.reverse + 0
    omega

theorem elements_foldlM {tokens : List Token} {st st' : State} (h : tokens.foldlM State.take st = some st') :
    st'.elements = st.elements + tokens.countP Token.isStartTag := by
  induction tokens generalizing st with
  | nil =>
    cases h
    rfl
  | cons token tokens ih =>
    rw [List.foldlM_cons] at h
    obtain ⟨next, hnext, h⟩ := Option.bind_eq_some_iff.mp h
    rw [ih h, elements_take hnext, List.countP_cons, Nat.add_assoc, Nat.add_comm (List.countP _ _)]

end Reader

end Regraft.Xml

namespace Regraft

open Xml (Context Node)

/-! ## 4. Pruned contexts

Stripping goes through the context: the contents around the open element have an element in them, so all their blank
texts are dropped, whatever is filled in. -/

/-- A context without the blank texts around its open element and the elements that it is in. -/
def Xml.Context.prune : Context → Context
  | .here left right => .here (Fragment.pruneContent true left) (Fragment.pruneContent true right)
  | .inside left tag context right =>
    .inside (Fragment.pruneContent true left) tag context.prune (Fragment.pruneContent true right)

namespace Fragment

theorem pruneContent_append (lays : Bool) (c c' : List Node) :
    pruneContent lays (c ++ c') = pruneContent lays c ++ pruneContent lays c' := by
  rw [pruneContent_eq, pruneContent_eq, pruneContent_eq, List.map_append, List.filter_append]

theorem pruneContent_element {n : Node} (hn : n.isElement = true) (lays : Bool) (c : List Node) :
    pruneContent lays (n :: c) = pruneNode n :: pruneContent lays c := by
  have hblank : isBlankText n = false := by
    cases n with
    | element t k => rfl
    | text value => cases hn
    | comment value => cases hn
    | instruction target data => cases hn
  rw [pruneContent, hblank, Bool.and_false]
  rfl

/-- All contents on the way to an element have an element in them, so their blank texts lay them out. -/
theorem prune_fill {n : Node} (hn : n.isElement = true) (c : Context) :
    prune (c.fill n) = c.prune.fill (pruneNode n) := by
  rw [prune]
  induction c with
  | here left right =>
    rw [Context.fill, pruneContent_append, pruneContent_element hn]
    rfl
  | inside left tag context right ih =>
    rw [Context.fill, pruneContent_append, pruneContent_element rfl, pruneNode, Context.any_isElement_fill hn, ih]
    rfl

mutual

theorem elementCount_pruneNode : ∀ n : Node, (pruneNode n).elementCount = n.elementCount
  | .element t k => by
    rw [pruneNode, Node.elementCount, Node.elementCount, contentElements_prune]
  | .text value => by simp only [pruneNode]
  | .comment value => by simp only [pruneNode]
  | .instruction target data => by simp only [pruneNode]

theorem contentElements_prune (lays : Bool) : ∀ c : List Node,
    Xml.contentElements (pruneContent lays c) = Xml.contentElements c
  | [] => by rw [pruneContent]
  | n :: c => by
    rw [pruneContent, Xml.contentElements]
    split
    · rename_i hblank
      rw [Bool.and_eq_true] at hblank
      have hnone : n.elementCount = 0 := by
        cases n with
        | element t k => cases isText_of_isBlankText hblank.2
        | text value => rfl
        | comment value => rfl
        | instruction target data => rfl
      rw [contentElements_prune lays c, hnone, Nat.zero_add]
    · rw [Xml.contentElements, elementCount_pruneNode n, contentElements_prune lays c]

end

theorem elementsBefore_prune (c : Context) : c.prune.elementsBefore = c.elementsBefore := by
  induction c with
  | here left right => exact contentElements_prune true left
  | inside left tag context right ih =>
    rw [Context.prune, Context.elementsBefore, Context.elementsBefore, contentElements_prune, ih]

end Fragment

end Regraft
