import Regraft.Proofs.Calls
import Regraft.Proofs.Placing
import Regraft.Proofs.Preservation
import Regraft.Proofs.TextsApart
/-!
# The document only grows

Whatever a run is called to do, what it has built stays.  Texts come and go at the beginning of an element
and are joined at its end, so positions are counted among the nodes that are no texts: `Node.at?` follows
such positions down from a node.  `Grown n m` says that whatever is found at any positions below `n` is
found at the same positions below `m`, with the same tag if it is an element.  Where all tags differ, an
element found there is therefore the same one, and the statement is made for these documents too.

* `GrownContent.prefix_shapes`: what is added to an element comes after all that was in it;
* `Run.grown_after`: the document of a run grows, whatever the run is called to do;
* `element_stays`: what that says of one element.
-/

namespace Regraft

open Xml (Address Document Node QName Tag)

namespace Xml

/-! ## 1. Positions that texts do not count for

Positions are counted without texts, because texts may come and go between the other nodes. -/

/-- What a node is apart from what is in it; a text has no shape. -/
inductive Shape where
  | element (tag : Tag)
  | comment (value : String)
  | instruction (target : String) (data : Option String)

/-- The shape of a node that is no text. -/
def Node.shape? : Node → Option Shape
  | element tag _ => some (.element tag)
  | text _ => none
  | comment value => some (.comment value)
  | instruction target data => some (.instruction target data)

/-- The nodes of a content that are no texts. -/
def solids (c : List Node) : List Node := c.filter fun n => !n.isText

/-- The node at a position among the children that are no texts, at such a position in it, and so on. -/
def Node.at? (n : Node) : List Nat → Option Node
  | [] => some n
  | i :: a =>
    match (solids n.content)[i]? with
    | some m => m.at? a
    | none => none

theorem solids_append (c c' : List Node) : solids (c ++ c') = solids c ++ solids c' :=
  List.filter_append ..

theorem solids_cons_of_not_text {n : Node} (hn : n.isText = false) (c : List Node) :
    solids (n :: c) = n :: solids c :=
  List.filter_cons_of_pos (by simp [hn])

theorem solids_cons_of_text {n : Node} (hn : n.isText = true) (c : List Node) :
    solids (n :: c) = solids c :=
  List.filter_cons_of_neg (by simp [hn])

/-- Joining two neighbours concerns texts only. -/
theorem solids_joinNodes (m n : Node) : solids (joinNodes m n) = solids [m, n] := by
  cases m with
  | text a => cases n <;> rfl
  | element tag k => cases n <;> rfl
  | comment v => cases n <;> rfl
  | instruction t d => cases n <;> rfl

theorem solids_appendNode (n : Node) : ∀ c : List Node, solids (appendNode c n) = solids c ++ solids [n]
  | [] => rfl
  | [m] => by
    rw [appendNode, solids_joinNodes, ← solids_append]
    rfl
  | m :: m' :: c => by
    have hcons : ∀ x : List Node, solids (m :: x) = solids [m] ++ solids x := fun x => solids_append [m] x
    rw [appendNode, hcons, solids_appendNode n (m' :: c), hcons (m' :: c), List.append_assoc]

theorem solids_appendNodes (c ns : List Node) : solids (appendNodes c ns) = solids c ++ solids ns := by
  unfold appendNodes
  induction ns generalizing c with
  | nil => exact (List.append_nil _).symm
  | cons n ns ih =>
    rw [List.foldl_cons, ih, solids_appendNode, List.append_assoc, ← solids_append]
    rfl

theorem solids_otherNodes (c : List Node) : solids (otherNodes c) = solids c := by
  rcases begins_or c with ⟨value, heq⟩ | ⟨heq, -⟩
  · rw [heq, solids_cons_of_text rfl]
    rfl
  · rw [heq]

theorem solids_setLeadingText (value : String) (c : List Node) :
    solids (setLeadingText value c) = solids c := by
  cases hempty : value.isEmpty with
  | true => rw [setLeadingText_of_isEmpty hempty, solids_otherNodes]
  | false => rw [setLeadingText_of_not_isEmpty hempty, solids_cons_of_text rfl, solids_otherNodes, solids_otherNodes]

theorem Node.at?_singleton (n : Node) (i : Nat) : n.at? [i] = (solids n.content)[i]? := by
  rw [at?]
  cases (solids n.content)[i]? <;> rfl

theorem Node.at?_append (n : Node) (a b : List Nat) : n.at? (a ++ b) = (n.at? a).bind (·.at? b) := by
  induction a generalizing n with
  | nil => rfl
  | cons i a ih =>
    rw [List.cons_append, at?, at?]
    cases (solids n.content)[i]? with
    | none => rfl
    | some m => exact ih m

/-! ## 2. Growth

Growth is a preorder on nodes, and it is stronger than it looks: what is added comes after what was there, at every
depth. -/

/-- Whatever is below `n` is below `m` at the same positions and of the same shape; `n` itself is, too. -/
def Grown (n m : Node) : Prop :=
  ∀ a k, n.at? a = some k → ∃ k', m.at? a = some k' ∧ k'.shape? = k.shape?

/-- Whatever is in a content has grown in the other, and is at the same position there. -/
def GrownContent (c c' : List Node) : Prop :=
  ∀ (i : Nat) (n : Node), (solids c)[i]? = some n → ∃ m, (solids c')[i]? = some m ∧ Grown n m

theorem Grown.refl (n : Node) : Grown n n := fun _ k hk => ⟨k, hk, rfl⟩

theorem Grown.trans {n m k : Node} (h : Grown n m) (h' : Grown m k) : Grown n k := by
  intro a x hx
  obtain ⟨y, hy, hyx⟩ := h a x hx
  obtain ⟨z, hz, hzy⟩ := h' a y hy
  exact ⟨z, hz, hzy.trans hyx⟩

theorem GrownContent.refl (c : List Node) : GrownContent c c := fun _ n hn => ⟨n, hn, .refl n⟩

theorem GrownContent.trans {c c₁ c' : List Node} (h : GrownContent c c₁) (h' : GrownContent c₁ c') :
    GrownContent c c' := by
  intro i n hn
  obtain ⟨m, hm, hnm⟩ := h i n hn
  obtain ⟨k, hk, hmk⟩ := h' i m hm
  exact ⟨k, hk, hnm.trans hmk⟩

/-- What is at some positions has grown with all that is below it. -/
theorem Grown.at? {n m k : Node} (h : Grown n m) {a : List Nat} (hk : n.at? a = some k) :
    ∃ k', m.at? a = some k' ∧ Grown k k' := by
  obtain ⟨k', hk', -⟩ := h a k hk
  refine ⟨k', hk', fun b x hx => ?_⟩
  have hbelow : n.at? (a ++ b) = some x := by rw [Node.at?_append, hk]; exact hx
  obtain ⟨y, hy, hyx⟩ := h (a ++ b) x hbelow
  rw [Node.at?_append, hk'] at hy
  exact ⟨y, hy, hyx⟩

theorem grown_element {tag : Tag} {c c' : List Node} (h : GrownContent c c') :
    Grown (.element tag c) (.element tag c') := by
  intro a k hk
  cases a with
  | nil =>
    cases hk
    exact ⟨_, rfl, rfl⟩
  | cons i a =>
    rw [Node.at?] at hk
    split at hk
    · rename_i n hn
      obtain ⟨m, hm, hnm⟩ := h i n hn
      obtain ⟨k', hk', hshape⟩ := hnm a k hk
      refine ⟨k', ?_, hshape⟩
      rw [Node.at?, Node.content, hm]
      exact hk'
    · cases hk

/-- An element that has grown has its tag, and its content has grown. -/
theorem Grown.element_inv {tag : Tag} {c : List Node} {m : Node} (h : Grown (.element tag c) m) :
    ∃ c', m = .element tag c' ∧ GrownContent c c' := by
  obtain ⟨m', hm', hshape⟩ := h [] _ rfl
  cases hm'
  cases m with
  | element tag' c' =>
    cases hshape
    refine ⟨c', rfl, fun i n hn => ?_⟩
    obtain ⟨x, hx, hnx⟩ := h.at? ((Node.at?_singleton _ i).trans hn)
    exact ⟨x, (Node.at?_singleton _ i).symm.trans hx, hnx⟩
  | text v => cases hshape
  | comment v => cases hshape
  | instruction t d => cases hshape

theorem GrownContent.prefix_shapes {c c' : List Node} (h : GrownContent c c') :
    (solids c).map Node.shape? <+: (solids c').map Node.shape? := by
  rw [List.prefix_iff_getElem?]
  intro i hi
  rw [List.length_map] at hi
  obtain ⟨m, hm, hnm⟩ := h i _ (List.getElem?_eq_getElem hi)
  obtain ⟨k, hk, hshape⟩ := hnm [] _ rfl
  cases hk
  rw [List.getElem?_map, hm, List.getElem_map]
  exact congrArg some hshape

theorem grownContent_of_append {c c' x : List Node} (h : solids c' = solids c ++ x) : GrownContent c c' := by
  intro i n hn
  refine ⟨n, ?_, .refl n⟩
  rw [h, List.getElem?_append_left (List.getElem?_eq_some_iff.mp hn).1]
  exact hn

theorem isText_eq_isNone_shape? (n : Node) : n.isText = n.shape?.isNone := by
  cases n <;> rfl

theorem GrownContent.cons {n m : Node} {c c' : List Node} (hnm : Grown n m) (h : GrownContent c c') :
    GrownContent (n :: c) (m :: c') := by
  obtain ⟨k, hk, hshape⟩ := hnm [] _ rfl
  cases hk
  have htext : m.isText = n.isText := by
    rw [isText_eq_isNone_shape?, isText_eq_isNone_shape?, hshape]
  cases hn : n.isText with
  | true =>
    unfold GrownContent
    rw [solids_cons_of_text hn, solids_cons_of_text (htext.trans hn)]
    exact h
  | false =>
    unfold GrownContent
    rw [solids_cons_of_not_text hn, solids_cons_of_not_text (htext.trans hn)]
    intro i x hx
    cases i with
    | zero =>
      cases hx
      exact ⟨m, rfl, hnm⟩
    | succ i => exact h i x hx

end Xml

/-! ## 3. Edits under which contents grow

Every edit that a descent is made of adds at the end or goes on inside an element. -/

namespace Edit

open Xml (GrownContent)

/-- Whatever comes of the edit, the content has grown. -/
def Grows (f : Edit) : Prop := ∀ c, GrownContent c (f c).content

theorem grows_pad (q : QName) (n : Nat) : Grows (pad q n) :=
  fun c => Xml.grownContent_of_append (Xml.solids_appendNodes c _)

/-- Elements that grow inside make the content around them grow. -/
theorem grown_of_eachNamed {q : QName} {R : Nat → List Node → List Node → Prop} {c c' : List Node}
    (h : EachNamed q R c c') (hR : ∀ i k k', R i k k' → GrownContent k k') : GrownContent c c' := by
  induction h with
  | nil => exact .refl []
  | named _ hk _ ih => exact .cons (Xml.grown_element (hR 0 _ _ hk)) (ih fun i => hR (i + 1))
  | other _ _ ih => exact .cons (.refl _) (ih hR)

/-- Elements change only inside, and those that no edit reaches not at all. -/
theorem grows_eachNamed {q : QName} {fs : List Edit} (hfs : ∀ f ∈ fs, Grows f) : Grows (eachNamed q fs) := by
  intro c
  refine grown_of_eachNamed (eachNamed_changes fs c) ?_
  rintro - k k' (rfl | ⟨f, hf, rfl⟩)
  · exact .refl _
  · exact hfs f hf k

theorem grows_place (root : Root) (text : String) : Grows (.whole (Fragment.place root text)) := by
  refine relates_place GrownContent.refl
    (fun _ nodes _ c => Xml.grownContent_of_append (Xml.solids_appendNodes c nodes)) fun _ _ c => ?_
  refine Xml.grownContent_of_append (x := []) ?_
  rw [Xml.solids_setLeadingText, List.append_nil]

theorem grows_preserved : Preserved anyName Grows :=
  preserved_relates GrownContent.refl GrownContent.trans (fun _ => grows_pad _) grows_eachNamed

end Edit

/-! ## 4. Runs

So does every call, also one that fails on its way. -/

namespace Run

/-- The root that is built, with all that is in it. -/
def rootNode (r : Run) : Node := .element r.tag r.content

theorem grown_apply (r : Run) (rule : Rule) : Xml.Grown r.rootNode (r.apply rule).1.rootNode :=
  Xml.grown_element (Descent.follow_of_preserved (d := r.descent rule) Edit.grows_preserved
    (fun _ _ _ => trivial) _ _ (fun _ text _ _ => Edit.grows_place _ text) r.content)

/-- Whatever a run is called to do, its document grows. -/
theorem grown_after (r : Run) (calls : List Call) : Xml.Grown r.rootNode (r.after calls).rootNode :=
  after_induction (P := fun r' => Xml.Grown r.rootNode r'.rootNode)
    (fun r' rule hr' => hr'.trans (grown_apply r' rule)) (Xml.Grown.refl _) calls

end Run

/-- **What is built stays, and what is added comes last.**  An element at some positions in the document of
a run is at the same positions after any calls, with the same name, declarations and attributes.  Of the
nodes in it that are no texts, those that were there come first and in the same order. -/
theorem element_stays (r : Run) (calls : List Call) (a : List Nat) {tag : Tag} {content : List Node}
    (h : r.rootNode.at? a = some (.element tag content)) :
    ∃ content', (r.after calls).rootNode.at? a = some (.element tag content') ∧
      (Xml.solids content).map Node.shape? <+: (Xml.solids content').map Node.shape? := by
  obtain ⟨m, hm, hgrown⟩ := (r.grown_after calls).at? h
  obtain ⟨content', rfl, hcontent⟩ := hgrown.element_inv
  exact ⟨content', hm, hcontent.prefix_shapes⟩

/-- A `p` with a `q` in it stays while its text is replaced and others come after it. -/
theorem first_place_stays :
    let r := Sample.run [Sample.element "p" [.text "old", Sample.element "q" []]]
    let calls := [.rule Sample.unbound, .rules [Sample.merging, Sample.spreading]]
    r.rootNode.at? [0] = some (Sample.element "p" [.text "old", Sample.element "q" []]) ∧
    ∃ content', (r.after calls).rootNode.at? [0] = some (Sample.element "p" content') ∧
      (Xml.solids [.text "old", Sample.element "q" []]).map Node.shape? <+:
        (Xml.solids content').map Node.shape? :=
  ⟨rfl, element_stays _ _ [0] rfl⟩

/-! ## Summary

**What is established.**  An element of the document stays what it is for the rest of the run: at its position, with its
tag, its nodes that are no texts in front of all that are added later.

**What is not.**  Texts are left out on purpose.  A rule may replace the text that begins an element. -/

end Regraft
