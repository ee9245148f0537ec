import Regraft.Proofs.Addresses
/-!
# Moving a content child by child

What is in one element is moved to the end of another by moving the first child as long as there is one
(`Forest.Drains`).  Every move changes the list that it walks: the rest moves up, and a text joins the text that it
comes after.  If the two elements are in different trees the loop ends with nothing left in the first element, and the
second has all the nodes after its own, in their order (`Forest.Beside.exists_drains`).  Nothing else changes, and the
nodes of other trees keep their numbers.
-/

namespace Regraft

open Xml (Address Document Node Tag)

namespace Forest

/-! ## 1. One move

The first child of one element is moved to the end of another, in another tree.  The lemmas say where every number leads
after that. -/

/-- Two elements in different trees, with their numbers and places. -/
structure Beside (f : Forest) (w d : Nat) (p q : Place) (t t' : Tag) (k c : List Node) : Prop where
  source : f.place? w = some p
  target : f.place? d = some q
  trees : q.tree ≠ p.tree
  content : f.node? p = some (.element t k)
  targetContent : f.node? q = some (.element t' c)

/-- The trees once `k` has been moved from the content at one place to that at another. -/
def moved (trees : List Document) (p q : Place) (rest : List Node) (added : List Node) : List Document :=
  (trees.modify p.tree fun d => d.update p.address fun _ => rest).modify q.tree fun d =>
    d.update q.address fun c => Xml.appendNodes c added

/-- A number stays with a node of another tree, and with a node whose address is none of those moved. -/
def Keeps (p : Place) (f g : Forest) : Prop :=
  ∀ m q, (q.tree = p.tree → q.address = p.address) → f.place? m = some q → g.place? m = some q

/-- A node that is put last is the only one to get another place. -/
theorem place_putLast {f g : Forest} {c p q : Place} {node : Node} {m : Nat} (hbefore : g.place? m = some q)
    (h : f.place? m = some q) (hother : q.tree = c.tree → Xml.Address.below? c.address q.address = none) :
    (f.putLast g.places c node p).place? m = some q := by
  rw [place?, putLast, List.getElem?_zipWith, place_eq_some.mp hbefore, place_eq_some.mp h]
  dsimp only [Option.bind_some]
  by_cases htree : q.tree = c.tree
  · rw [if_pos htree, hother htree]
    rfl
  · rw [if_neg htree]
    rfl

/-- The first child stands between no texts. -/
theorem takeOut_first (f : Forest) (p : Place) :
    f.takeOut p 0 = (f.relocate p.tree (Xml.Address.shiftAt p.address (Xml.Address.without 0))).update p
      (Xml.removeNode · 0) := by
  have hbetween : isBetweenTexts ((f.tree p).children p.address) 0 = false := rfl
  have hjoined : f.joinAround p 0 = f := by rw [joinAround, hbetween]; rfl
  rw [takeOut, hjoined]

theorem removeNode_first (n : Node) (k : List Node) : Xml.removeNode (n :: k) 0 = k := by
  cases k <;> rfl

theorem trees_takeOut_first {f : Forest} {p : Place} {t : Tag} {n : Node} {k : List Node}
    (h : f.node? p = some (.element t (n :: k))) :
    (f.takeOut p 0).trees = f.trees.modify p.tree fun d => d.update p.address fun _ => k := by
  rw [takeOut_first]
  exact trees_congr h (removeNode_first n k)

theorem place_takeOut_first {f : Forest} {p q : Place} {m : Nat} (h : f.place? m = some q)
    (hq : q.tree = p.tree → q.address = p.address) : (f.takeOut p 0).place? m = some q := by
  rw [takeOut_first]
  show (f.relocate _ _).place? m = some q
  rw [place_relocate, h, Option.bind_some]
  split
  · rename_i htree
    obtain ⟨tree, address⟩ := q
    obtain rfl : tree = p.tree := htree
    obtain rfl : address = p.address := hq rfl
    rw [Xml.Address.shiftAt, below_self]
    rfl
  · rfl

/-- The place of the first child. -/
def firstChild (p : Place) : Place := ⟨p.tree, p.address ++ [0]⟩

theorem node_firstChild {f : Forest} {p : Place} {t : Tag} {n : Node} {k : List Node}
    (h : f.node? p = some (.element t (n :: k))) : f.node? (firstChild p) = some n :=
  node_below h (List.cons_ne_nil 0 [])

/-- Into another tree a first child is moved without any further condition. -/
theorem appendChild_first {f : Forest} {d m : Nat} {p q : Place} {t : Tag} {n : Node} {c : List Node}
    (hd : f.place? d = some q) (hm : f.place? m = some (firstChild p)) (hn : f.node? (firstChild p) = some n)
    (hq : f.node? q = some (.element t c)) (htrees : q.tree ≠ p.tree) :
    f.appendChild d m = ((f.takeOut p 0).putLast f.places (firstChild p) n q, none) := by
  have hlast : (firstChild p).address.getLast? = some 0 := List.getLast?_concat
  have hhome : (⟨(firstChild p).tree, (firstChild p).address.dropLast⟩ : Place) = p := by
    show (⟨p.tree, (p.address ++ [0]).dropLast⟩ : Place) = p
    rw [List.dropLast_concat]
  have hcontainer : (f.tree q).isContainer q.address = true := Xml.Document.isContainer_of_node hq
  have hne : (q == p) = false := beq_eq_false_iff_ne.mpr fun heq => htrees (congrArg Place.tree heq)
  rw [appendChild, hd, hm]
  simp only [hn, hlast, hhome, hcontainer, hne, Bool.not_true, Bool.false_eq_true, Bool.and_false, Bool.false_and,
    if_false]
  rw [if_neg (by simp [htrees, firstChild]), place_takeOut_first hd fun htree => absurd htree htrees]
  rfl

/-- **The first child is handed out and moved**: it is then the last in the other element. -/
theorem Beside.move {f : Forest} {w d : Nat} {p q : Place} {t t' : Tag} {n : Node} {k c : List Node}
    (h : f.Beside w d p q t t' (n :: k) c) :
    ∃ f₁ m f₂, f.child w 0 = some (f₁, m) ∧ f₁.appendChild d m = (f₂, none) ∧
      f₂.trees = moved f.trees p q k [n] ∧ f.Keeps p f₂ := by
  let f₁ : Forest := (f.handOut (firstChild p)).1
  have hchild : f.child w 0 = some (f₁, f.places.length) := by
    rw [child, h.source]
    simp only [Option.bind_eq_bind, Option.bind_some, Xml.Document.children_of_node h.content,
      List.getElem?_cons_zero]
    rfl
  have hmove : f₁.appendChild d f.places.length = ((f₁.takeOut p 0).putLast f₁.places (firstChild p) n q, none) :=
    appendChild_first (place_handOut h.target _) (place_handedOut f _) (node_firstChild (f := f) h.content)
      h.targetContent h.trees
  refine ⟨f₁, f.places.length, _, hchild, hmove, ?_, fun m r hr hplace => ?_⟩
  · show ((f₁.takeOut p 0).trees.modify q.tree _) = _
    rw [trees_takeOut_first (f := f₁) h.content]
    rfl
  · have hbefore : f₁.place? m = some r := place_handOut hplace _
    refine place_putLast hbefore (place_takeOut_first hbefore hr) fun htree => ?_
    rw [hr htree]
    exact below_child p.address 0

/-! ## 2. The loop

The loop as a relation, without a bound.  By induction on the content that is left, with both places kept apart. -/

theorem tree_moved_source {f g : Forest} {p q : Place} {rest added : List Node}
    (h : g.trees = moved f.trees p q rest added) (htrees : q.tree ≠ p.tree) (hp : p.tree < f.trees.length) :
    g.tree p = (f.tree p).update p.address fun _ => rest := by
  rw [tree, h, moved, List.getElem?_modify_ne _ _ htrees, List.getElem?_modify_eq, tree_of_lt hp]
  rfl

theorem tree_moved_target {f g : Forest} {p q : Place} {rest added : List Node}
    (h : g.trees = moved f.trees p q rest added) (htrees : q.tree ≠ p.tree) (hq : q.tree < f.trees.length) :
    g.tree q = (f.tree q).update q.address fun c => Xml.appendNodes c added := by
  rw [tree, h, moved, List.getElem?_modify_eq, List.getElem?_modify_ne _ _ htrees.symm, tree_of_lt hq]
  rfl

/-- The two elements stay where they are. -/
theorem Beside.of_moved {f g : Forest} {w d : Nat} {p q : Place} {t t' : Tag} {k c rest added : List Node}
    (h : f.Beside w d p q t t' k c) (hg : g.trees = moved f.trees p q rest added) (hkeeps : f.Keeps p g) :
    g.Beside w d p q t t' rest (Xml.appendNodes c added) := by
  have hp := tree_moved_source hg h.trees (lt_of_node h.content)
  have hq := tree_moved_target hg h.trees (lt_of_node h.targetContent)
  refine ⟨hkeeps w p (fun _ => rfl) h.source, hkeeps d q (fun htree => absurd htree h.trees) h.target, h.trees, ?_, ?_⟩
  · rw [node?, hp]
    exact Xml.Document.node_update h.content _
  · rw [node?, hq]
    exact Xml.Document.node_update h.targetContent _

theorem Beside.moved_nothing {f : Forest} {w d : Nat} {p q : Place} {t t' : Tag} {k c : List Node}
    (h : f.Beside w d p q t t' k c) : moved f.trees p q k [] = f.trees := by
  have hsame (p : Place) (g : List Node → List Node) {t : Tag} {k : List Node} (hp : f.node? p = some (.element t k))
      (hg : g k = k) : f.trees.modify p.tree (fun d => d.update p.address g) = f.trees := by
    rw [trees_congr (v := fun k => k) hp hg]
    simp only [Xml.Document.update_self]
    exact List.modify_id ..
  rw [moved, hsame p _ h.content rfl]
  exact hsame q _ h.targetContent rfl

theorem moved_moved (trees : List Document) {p q : Place} (htrees : q.tree ≠ p.tree)
    (rest rest' added added' : List Node) :
    moved (moved trees p q rest added) p q rest' added' = moved trees p q rest' (added ++ added') := by
  have hadded (d : Document) : (d.update q.address fun c => Xml.appendNodes c added).update q.address
      (fun c => Xml.appendNodes c added') = d.update q.address fun c => Xml.appendNodes c (added ++ added') := by
    rw [Xml.Document.update_update]
    simp only [Xml.appendNodes, List.foldl_append]
  simp only [moved, List.modify_modify_ne _ _ _ htrees, List.modify_modify_eq, Function.comp_def, hadded,
    Xml.Document.update_update]

/-- The first child of one element is moved to the end of another as long as there is one. -/
inductive Drains (w d : Nat) : Forest → Forest → Prop where
  | done {f : Forest} : f.child w 0 = none → Drains w d f f
  | move {f f₁ f₂ f₃ : Forest} {m : Nat} : f.child w 0 = some (f₁, m) → f₁.appendChild d m = (f₂, none) →
      Drains w d f₂ f₃ → Drains w d f f₃

theorem Keeps.trans {p : Place} {f g h : Forest} (hfg : f.Keeps p g) (hgh : g.Keeps p h) : f.Keeps p h :=
  fun m q hq hplace => hgh m q hq (hfg m q hq hplace)

/-- **The loop ends.**  What was in the one element is in the other then, after what was there, and nothing else has
changed. -/
theorem Beside.exists_drains {f : Forest} {w d : Nat} {p q : Place} {t t' : Tag} {k c : List Node}
    (h : f.Beside w d p q t t' k c) :
    ∃ f', Drains w d f f' ∧ f'.trees = moved f.trees p q [] k ∧ f.Keeps p f' := by
  -- After a move the two elements are still beside each other, with one child less to move.
  induction k generalizing f c with
  | nil =>
    have hchild : f.child w 0 = none := by
      rw [child, h.source]
      simp only [Option.bind_eq_bind, Option.bind_some, Xml.Document.children_of_node h.content]
      rfl
    exact ⟨f, .done hchild, h.moved_nothing.symm, fun m q _ hplace => hplace⟩
  | cons n k ih =>
    obtain ⟨f₁, m, f₂, hchild, hmove, htrees, hkeeps⟩ := h.move
    obtain ⟨f', hdrains, htrees', hkeeps'⟩ := ih (h.of_moved htrees hkeeps)
    refine ⟨f', .move hchild hmove hdrains, ?_, hkeeps.trans hkeeps'⟩
    rw [htrees', htrees, moved_moved _ h.trees]
    rfl

end Forest

end Regraft
