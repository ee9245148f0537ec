import Regraft.Forest
/-!
# Changed contents

A forest changes by changes to single contents.  What such a change does is known where it is made: the node there has
the changed content (`Xml.Document.node_update`), and of the change only what it does to the content that is there
matters (`Xml.Document.update_congr`, `Forest.trees_congr`).  Two changes in one place are one.

Numbers of nodes are moved along with changes and given out, which says where a number leads after that
(`Forest.place_relocate`, `Forest.place_handOut`).

The lemmas are about one change or one number at a time.  They are what an operation on forests is taken apart with:
taking a text out, putting nodes in and handing out the nodes of a query are each a change of one content and a move of
numbers, and what the two come to together is worked out in `Removal`, `BuiltTexts` and `FragmentForests`.
-/

namespace Regraft

open Xml (Address Document Node Tag)

namespace Xml

/-! ## 1. Contents

A content is changed at an address: the positions on it are followed down, and the last content is replaced.  So at each
level one child is replaced by itself with another content, and nothing else is touched. -/

/-- An address that goes on leads into the content of the node that it begins with. -/
theorem nodeAt?_cons_cons (k : List Node) (i j : Nat) (a : Address) :
    nodeAt? k (i :: j :: a) =
      match k[i]? with
      | some n => nodeAt? n.content (j :: a)
      | none => none :=
  rfl

theorem modify_congr {α : Type} {f g : α → α} {l : List α} {i : Nat} (h : ∀ x, l[i]? = some x → f x = g x) :
    l.modify i f = l.modify i g := by
  refine List.ext_getElem? fun j => ?_
  rw [List.getElem?_modify, List.getElem?_modify]
  split
  · rename_i hij
    subst hij
    cases hx : l[i]? with
    | none => rfl
    | some x => exact congrArg some (h x hx)
  · rfl

/-- Two changes in one place are one change. -/
theorem updateContent_comp (f g : List Node → List Node) (a : Address) (c : List Node) :
    updateContent f a (updateContent g a c) = updateContent (fun k => f (g k)) a c := by
  induction a generalizing c with
  | nil => rfl
  | cons i a ih =>
    rw [updateContent, updateContent, updateContent, List.modify_modify_eq]
    congr 1
    funext n
    cases n with
    | element t k => exact congrArg (Node.element t) (ih k)
    | text value => rfl
    | comment value => rfl
    | instruction target data => rfl

/-- To change nothing at an address is to change nothing. -/
theorem updateContent_id (a : Address) (c : List Node) : updateContent (fun k => k) a c = c := by
  induction a generalizing c with
  | nil => rfl
  | cons i a ih =>
    rw [updateContent, modify_congr (g := id), List.modify_id]
    intro n _
    cases n with
    | element t k => exact congrArg (Node.element t) (ih k)
    | text value => rfl
    | comment value => rfl
    | instruction target data => rfl

namespace Document

variable {d : Document} {a : Address} {t : Tag} {k : List Node}

/-- The children of an element are its content. -/
theorem children_of_node (h : d.node? a = some (.element t k)) : d.children a = k := by
  cases a with
  | nil => cases h
  | cons i a =>
    rw [children, h]
    · rfl
    · exact List.cons_ne_nil i a

theorem isContainer_of_node (h : d.node? a = some (.element t k)) : d.isContainer a = true := by
  rw [isContainer, h]
  exact Bool.or_true _

/-- The node where a change is made has its content changed, and keeps its tag. -/
theorem node_update (h : d.node? a = some (.element t k)) (f : List Node → List Node) :
    (d.update a f).node? a = some (.element t (f k)) := by
  obtain ⟨c⟩ := d
  show nodeAt? (updateContent f a c) a = _
  replace h : nodeAt? c a = some (.element t k) := h
  induction a generalizing c with
  | nil => cases h
  | cons i a ih =>
    cases a with
    | nil =>
      rw [nodeAt?] at h ⊢
      rw [updateContent, List.getElem?_modify_eq, h]
      rfl
    | cons j a =>
      rw [nodeAt?_cons_cons] at h ⊢
      split at h
      · rename_i n hn
        rw [updateContent, List.getElem?_modify_eq, hn]
        cases n with
        | element t' k' => exact ih k' h
        | text value => cases a <;> cases h
        | comment value => cases a <;> cases h
        | instruction target data => cases a <;> cases h
      · cases h

/-- Only what a change does to the content that is there matters. -/
theorem update_congr (h : d.node? a = some (.element t k)) {f g : List Node → List Node} (hfg : f k = g k) :
    d.update a f = d.update a g := by
  obtain ⟨c⟩ := d
  refine congrArg Document.mk ?_
  show updateContent f a c = updateContent g a c
  replace h : nodeAt? c a = some (.element t k) := h
  induction a generalizing c with
  | nil => cases h
  | cons i a ih =>
    rw [updateContent, updateContent]
    refine modify_congr fun n hn => ?_
    cases a with
    | nil =>
      rw [nodeAt?, hn] at h
      cases h
      exact congrArg (Node.element t) hfg
    | cons j a =>
      rw [nodeAt?_cons_cons, hn] at h
      cases n with
      | element t' k' => exact congrArg (Node.element t') (ih k' h)
      | text value => rfl
      | comment value => rfl
      | instruction target data => rfl

theorem update_update (f g : List Node → List Node) :
    (d.update a g).update a f = d.update a fun k => f (g k) :=
  congrArg Document.mk (updateContent_comp f g a d.content)

theorem update_self (d : Document) (a : Address) : d.update a (fun k => k) = d :=
  congrArg Document.mk (updateContent_id a d.content)

end Document

end Xml

namespace Forest

/-! ## 2. Forests

A forest is a list of documents with the places of the nodes that have numbers.  A change of one of its trees is a
change of one document in the list; a number that is moved or handed out changes the places alone. -/

theorem lt_of_node {f : Forest} {p : Place} {n : Node} (h : f.node? p = some n) : p.tree < f.trees.length := by
  rw [node?, tree] at h
  cases hp : f.trees[p.tree]? with
  | none =>
    rw [hp] at h
    cases ha : p.address with
    | nil =>
      rw [ha] at h
      cases h
    | cons i a =>
      rw [ha] at h
      cases a <;> cases h
  | some d => exact (List.getElem?_eq_some_iff.mp hp).1

theorem tree_of_lt {f : Forest} {p : Place} (h : p.tree < f.trees.length) : f.trees[p.tree]? = some (f.tree p) := by
  rw [tree, List.getElem?_eq_getElem h]
  rfl

/-- Only what a change does to the content that an element has matters to the trees. -/
theorem trees_congr {f : Forest} {p : Place} {t : Tag} {k : List Node} (h : f.node? p = some (.element t k))
    {u v : List Node → List Node} (huv : u k = v k) :
    f.trees.modify p.tree (fun d => d.update p.address u) = f.trees.modify p.tree fun d => d.update p.address v := by
  refine Xml.modify_congr fun doc hdoc => ?_
  rw [tree_of_lt (lt_of_node h)] at hdoc
  cases hdoc
  exact Xml.Document.update_congr h huv

/-- After a move in one tree, a number leads where the move takes its node, and in other trees where it led before. -/
theorem place_relocate (f : Forest) (tree : Nat) (move : Address → Option Address) (m : Nat) :
    (f.relocate tree move).place? m = (f.place? m).bind fun p =>
      if p.tree = tree then (move p.address).map (⟨tree, ·⟩) else some p := by
  rw [place?, place?, relocate, List.getElem?_map]
  cases f.places[m]? with
  | none => rfl
  | some p? => cases p? <;> rfl

theorem place_eq_some {f : Forest} {m : Nat} {q : Place} : f.place? m = some q ↔ f.places[m]? = some (some q) :=
  Option.join_eq_some_iff

/-- Where a number has a place, asking for it is no failure. -/
theorem place_of_some {f : Forest} {m : Nat} {q : Place} (h : f.place? m = some q) : f.place m = .ok q := by
  rw [place, h]

/-- Numbers that have been given out keep their places when another one is given out. -/
theorem place_handOut {f : Forest} {m : Nat} {q : Place} (h : f.place? m = some q) (p : Place) :
    (f.handOut p).1.place? m = some q := by
  rw [place_eq_some] at h ⊢
  rw [handOut, List.getElem?_append_left (List.getElem?_eq_some_iff.mp h).1]
  exact h

/-- The new number leads to its place. -/
theorem place_handedOut (f : Forest) (p : Place) : (f.handOut p).1.place? f.places.length = some p :=
  place_eq_some.mpr List.getElem?_concat_length

theorem below_self (a : Address) : Xml.Address.below? a a = some [] := by
  rw [Xml.Address.below?, if_pos (List.isPrefixOf_iff_prefix.mpr List.prefix_rfl), List.drop_length]

theorem below_child (a : Address) (i : Nat) : Xml.Address.below? (a ++ [i]) a = none := by
  rw [Xml.Address.below?, if_neg]
  rw [List.isPrefixOf_iff_prefix]
  intro h
  have hlength := h.length_le
  rw [List.length_append, List.length_singleton] at hlength
  omega

end Forest

end Regraft
