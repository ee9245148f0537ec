import Regraft.Proofs.Changes
/-!
# Addresses that go on from another one

An address may lead to a node and go on from there.  What it leads to, and what a change at its end does, is then a
matter of that node's content alone (`nodeAt?_append`, `updateContent_append`), and nodes that are moved inside that
content are moved by the part of their addresses that goes on (`shiftAt_append`).

So what is shown of an operation on the content of one element holds of the operation on the whole document, wherever
the element stands.  The lemmas of this module are that step, once for finding nodes, once for changes and once for
moves; nothing in them depends on what the operation is.
-/

namespace Regraft

open Xml (Address Document Node Tag)

namespace Xml

/-! ## 1. Nodes and changes

An address is a list of positions, and the empty one leads to no node: it stands for the content itself.  That is why
`nodeAt?_append` has two hypotheses, and why there is `contentAt`, which takes the empty address for what it stands
for. -/

/-- The empty address leads to no node. -/
theorem nodeAt?_nil (c : List Node) : nodeAt? c [] = none := by
  cases c <;> rfl

/-- What follows an address is followed in the content of the node that it leads to. -/
theorem nodeAt?_append (c : List Node) {a b : Address} (ha : a ≠ []) (hb : b ≠ []) :
    nodeAt? c (a ++ b) = (nodeAt? c a).bind fun n => nodeAt? n.content b := by
  obtain ⟨j, b, rfl⟩ := List.exists_cons_of_ne_nil hb
  induction a generalizing c with
  | nil => exact absurd rfl ha
  | cons i a ih =>
    cases a with
    | nil =>
      rw [List.singleton_append, nodeAt?_cons_cons, nodeAt?]
      cases (c)[i]? <;> rfl
    | cons k a =>
      rw [List.cons_append, List.cons_append, nodeAt?_cons_cons, nodeAt?_cons_cons]
      cases (c)[i]? with
      | none => rfl
      | some n => exact ih n.content (List.cons_ne_nil k a)

/-- The first step of an address leads into the content of a child. -/
theorem nodeAt?_cons (c : List Node) (i : Nat) {a : Address} (ha : a ≠ []) :
    nodeAt? c (i :: a) = ((c)[i]?).bind fun n => nodeAt? n.content a :=
  nodeAt?_append c (List.cons_ne_nil i []) ha

/-- A change at the end of two addresses is a change of the content at the first. -/
theorem updateContent_append (f : List Node → List Node) (a b : Address) (c : List Node) :
    updateContent f (a ++ b) c = updateContent (updateContent f b) a c := by
  induction a generalizing c with
  | nil => rfl
  | cons i a ih =>
    rw [List.cons_append, updateContent, updateContent]
    congr 1
    funext n
    cases n with
    | element t k => exact congrArg (Node.element t) (ih k)
    | text value => rfl
    | comment value => rfl
    | instruction target data => rfl

/-- What stands at an address of a content: the content itself, or that of the node there. -/
def contentAt (c : List Node) : Address → List Node
  | [] => c
  | a => ((nodeAt? c a).map Node.content).getD []

namespace Document

variable {d : Document} {a : Address} {t : Tag} {k : List Node}

/-- Below an element the document is the element's content. -/
theorem node_append (h : d.node? a = some (.element t k)) {b : Address} (hb : b ≠ []) :
    d.node? (a ++ b) = nodeAt? k b := by
  have ha : a ≠ [] := by
    rintro rfl
    rw [node?, nodeAt?_nil] at h
    cases h
  rw [node?] at h ⊢
  rw [nodeAt?_append _ ha hb, h]
  rfl

theorem children_append (h : d.node? a = some (.element t k)) (b : Address) :
    d.children (a ++ b) = contentAt k b := by
  cases b with
  | nil =>
    rw [List.append_nil]
    exact children_of_node h
  | cons i b =>
    have hne : a ++ i :: b ≠ [] := List.append_ne_nil_of_right_ne_nil a (List.cons_ne_nil i b)
    rw [children, node_append h (List.cons_ne_nil i b)]
    · rfl
    · exact hne

end Document

/-! ## 2. Addresses that are moved

A move in a content says for each position where the node goes that stands there, or that it is gone.  Addresses that
lead into the content have that position changed; all others, and the address of the element itself, stay as they are.
-/

namespace Address

/-- What is left of an address behind another one. -/
theorem below?_eq_some {above a b : Address} : below? above a = some b ↔ a = above ++ b := by
  rw [below?]
  constructor
  · intro h
    split at h
    · rename_i hprefix
      obtain ⟨rest, rfl⟩ := List.isPrefixOf_iff_prefix.mp hprefix
      rw [List.drop_left] at h
      cases h
      rfl
    · cases h
  · rintro rfl
    rw [if_pos (List.isPrefixOf_iff_prefix.mpr (List.prefix_append above b)), List.drop_left]

theorem below?_append (above a : Address) : below? above (above ++ a) = some a := below?_eq_some.mpr rfl

theorem below?_append_append (base above a : Address) : below? (base ++ above) (base ++ a) = below? above a := by
  cases h : below? above a with
  | some b => rw [below?_eq_some.mp h, ← List.append_assoc, below?_append]
  | none =>
    cases hlong : below? (base ++ above) (base ++ a) with
    | none => rfl
    | some b =>
      rw [below?_eq_some, List.append_assoc, List.append_cancel_left_eq] at hlong
      rw [hlong, below?_append] at h
      cases h

/-- What is not below the parent stays where it is. -/
theorem shiftAt_of_below_none {parent a : Address} (shift : Nat → Option Nat) (h : below? parent a = none) :
    shiftAt parent shift a = some a := by
  rw [shiftAt, h]

/-- The node itself stays where it is when something is moved in its content. -/
theorem shiftAt_self (parent : Address) (shift : Nat → Option Nat) : shiftAt parent shift parent = some parent := by
  rw [shiftAt, below?_eq_some.mpr (List.append_nil parent).symm]

/-- What is below a child moves with the child. -/
theorem shiftAt_child (parent : Address) (shift : Nat → Option Nat) (i : Nat) (a : Address) :
    shiftAt parent shift (parent ++ i :: a) = (shift i).map fun j => parent ++ j :: a := by
  rw [shiftAt, below?_append]

/-- Below an address only what follows matters. -/
theorem shiftAt_append (base parent : Address) (shift : Nat → Option Nat) (a : Address) :
    shiftAt (base ++ parent) shift (base ++ a) = (shiftAt parent shift a).map (base ++ ·) := by
  rw [shiftAt, shiftAt, below?_append_append]
  cases below? parent a with
  | none => rfl
  | some b =>
    cases b with
    | nil => rfl
    | cons i b =>
      dsimp only
      cases shift i with
      | none => rfl
      | some j => exact congrArg some (List.append_assoc base parent (j :: b))

/-- One move after another. -/
theorem shiftAt_bind (parent : Address) (first second : Nat → Option Nat) (a : Address) :
    (shiftAt parent first a).bind (shiftAt parent second) = shiftAt parent (fun i => (first i).bind second) a := by
  cases h : below? parent a with
  | none =>
    rw [shiftAt_of_below_none first h, shiftAt_of_below_none _ h]
    exact shiftAt_of_below_none second h
  | some b =>
    obtain rfl := below?_eq_some.mp h
    cases b with
    | nil =>
      rw [List.append_nil, shiftAt_self, shiftAt_self]
      exact shiftAt_self parent second
    | cons i b =>
      rw [shiftAt_child, shiftAt_child]
      cases first i with
      | none => rfl
      | some j => exact shiftAt_child parent second j b

theorem shiftAt_some (parent a : Address) : shiftAt parent some a = some a := by
  cases h : below? parent a with
  | none => exact shiftAt_of_below_none some h
  | some b =>
    obtain rfl := below?_eq_some.mp h
    cases b with
    | nil => rw [List.append_nil, shiftAt_self]
    | cons i b => exact shiftAt_child parent some i b

end Address

end Xml

namespace Place

/-- The place that an address leads to from a place. -/
def below (p : Place) (a : Address) : Place := ⟨p.tree, p.address ++ a⟩

end Place

namespace Forest

/-- Below an element the forest is the element's content. -/
theorem node_below {f : Forest} {p : Place} {t : Tag} {k : List Node} (h : f.node? p = some (.element t k))
    {a : Address} (ha : a ≠ []) : f.node? (p.below a) = Xml.nodeAt? k a :=
  Xml.Document.node_append h ha

/-- A node that is not inside another does not move with what is inside. -/
theorem shiftAt_outside {p q : Place} (hq : ∀ a ≠ [], q ≠ p.below a) (shift : Nat → Option Nat) :
    (if q.tree = p.tree then (Xml.Address.shiftAt p.address shift q.address).map (⟨p.tree, ·⟩) else some q) =
      some q := by
  split
  · rename_i htree
    obtain ⟨tree, address⟩ := q
    obtain rfl : tree = p.tree := htree
    cases hbelow : Xml.Address.below? p.address address with
    | none => rw [Xml.Address.shiftAt_of_below_none shift hbelow]; rfl
    | some a =>
      obtain rfl := Xml.Address.below?_eq_some.mp hbelow
      cases a with
      | nil => rw [List.append_nil, Xml.Address.shiftAt_self]; rfl
      | cons i a => exact absurd rfl (hq (i :: a) (List.cons_ne_nil i a))
  · rfl

/-- One move after another, as one. -/
theorem relocate_relocate (f : Forest) (p : Place) (first second : Nat → Option Nat) :
    (f.relocate p.tree (Xml.Address.shiftAt p.address first)).relocate p.tree (Xml.Address.shiftAt p.address second) =
      f.relocate p.tree (Xml.Address.shiftAt p.address fun i => (first i).bind second) := by
  rw [relocate, relocate, relocate, List.map_map]
  congr 1
  refine List.map_congr_left fun q? _ => ?_
  cases q? with
  | none => rfl
  | some q =>
    simp only [Function.comp_apply, Option.bind_some]
    split
    · rw [← Xml.Address.shiftAt_bind]
      cases Xml.Address.shiftAt p.address first q.address with
      | none => rfl
      | some a => simp
    · rename_i htree
      rw [Option.bind_some, if_neg htree]

theorem relocate_some (f : Forest) (p : Place) : f.relocate p.tree (Xml.Address.shiftAt p.address some) = f := by
  rw [relocate]
  congr 1
  refine (List.map_congr_left fun q? _ => ?_).trans (List.map_id _)
  cases q? with
  | none => rfl
  | some q =>
    rw [Option.bind_some, Xml.Address.shiftAt_some]
    split
    · rename_i htree
      rw [← htree]
      rfl
    · rfl

end Forest

end Regraft
