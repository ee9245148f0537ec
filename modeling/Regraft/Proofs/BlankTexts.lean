import Regraft.Proofs.Calls
import Regraft.Proofs.Removal
/-!
# Taking out blank texts is a filter

Blank texts that lay out a fragment are first collected, by a search that keeps the contents still to be looked at on a
stack, and then taken out one by one under their numbers (`Forest.removeBlanks`).  The search comes to an end
(`exists_searches`), and what it finds are the texts that `laysOut` describes content by content, each of them once.
Since no text stands beside another, taking one out never joins two others.  So each that has been found is still there
when its turn comes, whatever the order, and what is left is the fragment pruned (`blank_texts_filtered`).
-/

namespace Regraft

open Xml (Address Document Node Tag)

namespace Fragment

/-! ## 1. The search

The search has the contents that wait on a stack and takes the top one at every step: its blank texts are found, and
the contents of its elements are put on the stack.  `Searches` is that loop as a relation, without a bound.  The program
has a bound, and a content weighs as much as the nodes in it: what one step puts on the stack weighs less than what it
takes off, so the bound is never met. -/

/-- The search of contents that wait, after some blank texts have been found, and all that has been found when none
waits any longer. -/
inductive Searches : List Address → List Pending → List Address → Prop where
  | done {found : List Address} : Searches found [] found
  | step {found all : List Address} {p : Pending} {rest : List Pending} :
      Searches (p.blanks ++ found) (p.inside ++ rest) all → Searches found (p :: rest) all

/-- A search with a bound that what waits does not outweigh goes on to the end. -/
theorem searches_searchBlanks {fuel : Nat} {found : List Address} {pending : List Pending}
    (hfuel : Pending.weights pending ≤ fuel) : Searches found pending (searchBlanks fuel found pending) := by
  induction fuel generalizing found pending with
  | zero =>
    cases pending with
    | nil => exact .done
    | cons p rest => simp [Pending.weights, Pending.weight] at hfuel
  | succ fuel ih =>
    cases pending with
    | nil => exact .done
    | cons p rest =>
      have hweight := p.weight_inside
      rw [Pending.weights] at hfuel
      refine .step (ih ?_)
      rw [Pending.weights_append]
      omega

/-- The search of a fragment comes to an end. -/
theorem exists_searches (content : List Node) : Searches [] [⟨[], content, true⟩] (blankTexts content) :=
  searches_searchBlanks (by simp [Pending.weights, Pending.weight])

/-! ## 2. What it finds

What a search of a stack finds is, for every content on it, what is found in that content, whatever the order of the
stack.  So it can be said content by content which addresses are found, and `laysOut` says it by following an address
down: the last position on it is that of a blank text, and the content there is the top one or has an element in it. -/

/-- Whether the node at an address is a blank text that lays out the content that it stands in; `lays` tells whether
blank texts do so at the top. -/
def laysOut (lays : Bool) : List Node → Address → Bool
  | _, [] => false
  | c, [i] => lays && ((c)[i]?).any isBlankText
  | c, i :: j :: a =>
    match (c)[i]? with
    | some (.element _ k) => laysOut (k.any Node.isElement) k (j :: a)
    | _ => false

theorem mem_blankPositions {c : List Node} {i j : Nat} :
    j ∈ blankPositions i c ↔ ∃ l, j = i + l ∧ ((c)[l]?).any isBlankText = true := by
  induction c generalizing i with
  | nil => simp [blankPositions]
  | cons n c ih =>
    rw [blankPositions, List.mem_append, ih]
    constructor
    · rintro (⟨l, rfl, hl⟩ | hj)
      · exact ⟨l + 1, by omega, hl⟩
      · split at hj
        · rename_i hblank
          obtain rfl := List.mem_singleton.mp hj
          exact ⟨0, rfl, hblank⟩
        · cases hj
    · rintro ⟨l, rfl, hl⟩
      cases l with
      | zero =>
        have hblank : isBlankText n = true := hl
        exact .inr (by simp [hblank])
      | succ l => exact .inl ⟨l, by omega, hl⟩

theorem mem_blanksInside {c : List Node} {i : Nat} {a : Address} :
    a ∈ blanksInside i c ↔ ∃ l n b, a = (i + l) :: b ∧ (c)[l]? = some n ∧ b ∈ blanksInNode n := by
  induction c generalizing i with
  | nil => simp [blanksInside]
  | cons n c ih =>
    rw [blanksInside, List.mem_append, ih]
    constructor
    · rintro (ha | ⟨l, m, b, rfl, hl, hb⟩)
      · obtain ⟨b, hb, rfl⟩ := List.mem_map.mp ha
        exact ⟨0, n, b, rfl, rfl, hb⟩
      · exact ⟨l + 1, m, b, by rw [Nat.add_right_comm, Nat.add_assoc], hl, hb⟩
    · rintro ⟨l, m, b, rfl, hl, hb⟩
      cases l with
      | zero =>
        cases hl
        exact .inl (List.mem_map.mpr ⟨b, hb, rfl⟩)
      | succ l => exact .inr ⟨l, m, b, by rw [Nat.add_right_comm, Nat.add_assoc], hl, hb⟩

theorem ne_nil_of_mem_blanksInNode {n : Node} {a : Address} (h : a ∈ blanksInNode n) : a ≠ [] := by
  cases n with
  | element t k =>
    rw [blanksInNode, List.mem_append] at h
    rcases h with h | h
    · exact ne_nil_of_mem_blanksInside h
    · split at h
      · obtain ⟨i, -, rfl⟩ := List.mem_map.mp h
        exact List.cons_ne_nil i []
      · cases h
  | text value => simp [blanksInNode] at h
  | comment value => simp [blanksInNode] at h
  | instruction target data => simp [blanksInNode] at h

/-- The blank texts below a content, and its own if they lay it out. -/
theorem mem_blanks_iff {lays : Bool} {c : List Node} {a : Address} :
    a ∈ blanksInside 0 c ++ (if lays then (blankPositions 0 c).map fun i => [i] else []) ↔
      laysOut lays c a = true := by
  induction a generalizing lays c with
  | nil =>
    have hinside : [] ∉ blanksInside 0 c := fun h => ne_nil_of_mem_blanksInside h rfl
    cases lays <;> simp [laysOut, hinside]
  | cons i a ih =>
    cases a with
    | nil =>
      have hinside : [i] ∉ blanksInside 0 c := by
        intro h
        obtain ⟨l, n, b, heq, -, hb⟩ := mem_blanksInside.mp h
        exact ne_nil_of_mem_blanksInNode hb (List.cons.inj heq).2.symm
      cases lays <;> simp [laysOut, hinside, mem_blankPositions]
    | cons j a =>
      -- A longer address can only be that of a text inside an element.
      have hown : (i :: j :: a) ∉ if lays then (blankPositions 0 c).map fun i => [i] else ([] : List Address) := by
        split <;> simp
      rw [List.mem_append, or_iff_left hown, mem_blanksInside, laysOut]
      constructor
      · rintro ⟨l, n, b, heq, hl, hb⟩
        obtain ⟨rfl, rfl⟩ := List.cons.inj heq
        rw [Nat.zero_add, hl]
        cases n with
        | element t k => exact ih.mp hb
        | text value => simp [blanksInNode] at hb
        | comment value => simp [blanksInNode] at hb
        | instruction target data => simp [blanksInNode] at hb
      · intro h
        split at h
        · rename_i t k hn
          exact ⟨i, .element t k, j :: a, by rw [Nat.zero_add], hn, by rw [blanksInNode]; exact ih.mpr h⟩
        · cases h

/-- **What the search finds** are the blank texts that lay out a content. -/
theorem mem_blankTexts_iff {c : List Node} {a : Address} : a ∈ blankTexts c ↔ laysOut true c a = true := by
  rw [blankTexts_eq]
  exact @mem_blanks_iff true c a

theorem le_of_mem_blankPositions {c : List Node} {i j : Nat} (h : j ∈ blankPositions i c) : i ≤ j := by
  obtain ⟨l, rfl, -⟩ := mem_blankPositions.mp h
  exact Nat.le_add_right i l

theorem nodup_blankPositions (c : List Node) (i : Nat) : (blankPositions i c).Nodup := by
  induction c generalizing i with
  | nil => exact .nil
  | cons n c ih =>
    rw [blankPositions, List.nodup_append]
    refine ⟨ih (i + 1), by split <;> simp, fun j hj l hl heq => ?_⟩
    have hle := le_of_mem_blankPositions hj
    split at hl
    · have hli := List.mem_singleton.mp hl
      omega
    · cases hl

/-- What is found in a content is not found in its elements. -/
theorem nodup_blanks {k : List Node} (h : (blanksInside 0 k).Nodup) (lays : Bool) :
    (blanksInside 0 k ++ if lays then (blankPositions 0 k).map fun i => [i] else []).Nodup := by
  rw [List.nodup_append]
  refine ⟨h, ?_, fun a ha b hb heq => ?_⟩
  · split
    · exact List.Pairwise.map _ (fun i j hne heq => hne (List.cons.inj heq).1) (nodup_blankPositions k 0)
    · exact .nil
  · obtain ⟨l, n, a', rfl, -, ha'⟩ := mem_blanksInside.mp ha
    split at hb
    · obtain ⟨i, -, rfl⟩ := List.mem_map.mp hb
      exact ne_nil_of_mem_blanksInNode ha' (List.cons.inj heq).2
    · cases hb

mutual

theorem nodup_blanksInNode : ∀ n : Node, (blanksInNode n).Nodup
  | .element t k => by
    rw [blanksInNode]
    exact nodup_blanks (nodup_blanksInside k 0) _
  | .text value => by simp [blanksInNode]
  | .comment value => by simp [blanksInNode]
  | .instruction target data => by simp [blanksInNode]

theorem nodup_blanksInside : ∀ (c : List Node) (i : Nat), (blanksInside i c).Nodup
  | [], i => by simp [blanksInside]
  | n :: c, i => by
    have hhead : ((blanksInNode n).map (i :: ·)).Nodup :=
      List.Pairwise.map _ (fun a b hne heq => hne (List.cons.inj heq).2) (nodup_blanksInNode n)
    rw [blanksInside, List.nodup_append]
    refine ⟨hhead, nodup_blanksInside c (i + 1), fun a ha b hb heq => ?_⟩
    obtain ⟨a', -, rfl⟩ := List.mem_map.mp ha
    obtain ⟨l, m, b', rfl, -, -⟩ := mem_blanksInside.mp hb
    have hfirst := (List.cons.inj heq).1
    omega

end

/-- Nothing is found twice. -/
theorem nodup_blankTexts (c : List Node) : (blankTexts c).Nodup := by
  rw [blankTexts_eq]
  exact nodup_blanks (nodup_blanksInside c 0) true

theorem exists_text_of_laysOut {lays : Bool} {c : List Node} {a : Address} (h : laysOut lays c a = true) :
    ∃ value, Xml.nodeAt? c a = some (.text value) := by
  induction a generalizing lays c with
  | nil => simp [laysOut] at h
  | cons i a ih =>
    cases a with
    | nil =>
      rw [laysOut, Bool.and_eq_true] at h
      obtain ⟨-, hblank⟩ := h
      show ∃ value, (c)[i]? = some (.text value)
      cases hn : (c)[i]? with
      | none =>
        rw [hn] at hblank
        cases hblank
      | some n =>
        rw [hn] at hblank
        cases n with
        | text value => exact ⟨value, rfl⟩
        | element t k => cases hblank
        | comment value => cases hblank
        | instruction target data => cases hblank
    | cons j a =>
      rw [laysOut] at h
      split at h
      · rename_i t k hn
        rw [Xml.nodeAt?_cons_cons, hn]
        exact ih h
      · cases h

/-! ## 3. What is left

Striking out the blank texts by their addresses is pruning content by content.  What `laysOut` says of the addresses
below one child is what it says in the content of that child, so both go down together. -/

theorem behind_laysOut (lays : Bool) (n : Node) (c : List Node) :
    Xml.behind (laysOut lays (n :: c)) = laysOut lays c := by
  funext a
  cases a with
  | nil => rfl
  | cons i a => cases a <;> rfl

theorem inside_laysOut (lays : Bool) (t : Tag) (k c : List Node) :
    Xml.inside (laysOut lays (.element t k :: c)) 0 = laysOut (k.any Node.isElement) k := by
  funext a
  cases a with
  | nil => cases lays <;> rfl
  | cons i a => rfl

/-- What is left without the blank texts that lay a content out is the content pruned. -/
theorem remaining_laysOut : ∀ (lays : Bool) (c : List Node), Xml.remaining (laysOut lays c) c = pruneContent lays c
  | lays, [] => by rw [Xml.remaining, pruneContent]
  | lays, n :: c => by
    have hfirst : laysOut lays (n :: c) [0] = (lays && isBlankText n) := rfl
    have hnode : n.remaining (Xml.inside (laysOut lays (n :: c)) 0) = pruneNode n := by
      cases n with
      | element t k => rw [inside_laysOut, Node.remaining, pruneNode, remaining_laysOut (k.any Node.isElement) k]
      | text value => simp only [Node.remaining, pruneNode]
      | comment value => simp only [Node.remaining, pruneNode]
      | instruction target data => simp only [Node.remaining, pruneNode]
    rw [Xml.remaining, pruneContent, behind_laysOut, remaining_laysOut lays c, hfirst, hnode]

theorem laysOut_append {lays : Bool} {c : List Node} {a : Address} {t : Tag} {k : List Node}
    (h : Xml.nodeAt? c a = some (.element t k)) {b : Address} (hb : b ≠ []) :
    laysOut lays c (a ++ b) = laysOut (k.any Node.isElement) k b := by
  obtain ⟨j, b, rfl⟩ := List.exists_cons_of_ne_nil hb
  induction a generalizing lays c with
  | nil =>
    rw [Xml.nodeAt?_nil] at h
    cases h
  | cons i a ih =>
    cases a with
    | nil =>
      have hi : (c)[i]? = some (.element t k) := h
      rw [List.singleton_append, laysOut, hi]
    | cons l a =>
      rw [Xml.nodeAt?_cons_cons] at h
      cases hn : (c)[i]? with
      | none =>
        rw [hn] at h
        cases h
      | some n =>
        rw [hn] at h
        cases n with
        | element t' k' =>
          rw [List.cons_append, List.cons_append, laysOut, hn]
          exact ih h
        | text value => cases a <;> cases h
        | comment value => cases a <;> cases h
        | instruction target data => cases a <;> cases h

/-- Every node that is left is pruned. -/
theorem remaining_under {c : List Node} {a : Address} {n : Node} (h : Xml.nodeAt? c a = some n) (lays : Bool) :
    n.remaining (Xml.under (laysOut lays c) a) = pruneNode n := by
  cases n with
  | element t k =>
    have hinside : Xml.under (laysOut lays c) a = laysOut (k.any Node.isElement) k := by
      funext b
      cases b with
      | nil =>
        rw [Xml.under, List.append_nil, laysOut, Bool.eq_false_iff]
        intro htext
        obtain ⟨value, hvalue⟩ := exists_text_of_laysOut htext
        rw [h] at hvalue
        cases hvalue
      | cons j b => exact laysOut_append h (List.cons_ne_nil j b)
    rw [hinside, Node.remaining, pruneNode, remaining_laysOut]
  | text value => simp only [Node.remaining, pruneNode]
  | comment value => simp only [Node.remaining, pruneNode]
  | instruction target data => simp only [Node.remaining, pruneNode]

/-! ## 4. Pruning twice

Pruning leaves no blank text where there are elements and takes no element away, so a pruned content is pruned already.
-/

theorem isElement_pruneNode (n : Node) : (pruneNode n).isElement = n.isElement := by
  cases n with
  | element t k =>
    rw [pruneNode]
    rfl
  | text value => simp only [pruneNode]
  | comment value => simp only [pruneNode]
  | instruction target data => simp only [pruneNode]

theorem any_isElement_pruneContent (lays : Bool) (c : List Node) :
    (pruneContent lays c).any Node.isElement = c.any Node.isElement := by
  induction c with
  | nil => rw [pruneContent]
  | cons n c ih =>
    rw [pruneContent, List.any_cons]
    split
    · rename_i hblank
      rw [Bool.and_eq_true] at hblank
      have hn : n.isElement = false := by
        cases n with
        | element t k => cases hblank.2
        | _ => rfl
      rw [hn, Bool.false_or]
      exact ih
    · rw [List.any_cons, isElement_pruneNode, ih]

theorem pruneContent_twice : ∀ (lays : Bool) (c : List Node),
    pruneContent lays (pruneContent lays c) = pruneContent lays c
  | lays, [] => by simp only [pruneContent]
  | lays, n :: c => by
    have hnode : pruneNode (pruneNode n) = pruneNode n := by
      cases n with
      | element t k =>
        simp only [pruneNode]
        rw [any_isElement_pruneContent, pruneContent_twice (k.any Node.isElement) k]
      | text value => simp only [pruneNode]
      | comment value => simp only [pruneNode]
      | instruction target data => simp only [pruneNode]
    rw [pruneContent]
    split
    · exact pruneContent_twice lays c
    · rename_i hkept
      rw [pruneContent, isBlankText_pruneNode, if_neg hkept, hnode, pruneContent_twice lays c]

/-- An element without elements in it keeps all its text. -/
theorem pruneNode_of_no_element (t : Tag) {k : List Node} (hk : k.any Node.isElement = false) :
    pruneNode (.element t k) = .element t k := by
  have hsame : k.map pruneNode = k := by
    refine (List.map_congr_left fun n hn => ?_).trans (List.map_id k)
    cases n with
    | element t' k' => exact absurd rfl (List.any_eq_false.mp hk _ hn)
    | text value => simp only [pruneNode, id]
    | comment value => simp only [pruneNode, id]
    | instruction target data => simp only [pruneNode, id]
  rw [pruneNode, hk, pruneContent_eq, hsame]
  simp

end Fragment

/-! ## 5. The loops

The blank texts that have been found get numbers, and the numbers are given back one after the other.  Of the steps only
`Lacks.removeAll` is used here, which does not depend on the order: what has been found last is taken out first, and
the opposite order would leave the same. -/

namespace Forest

/-- Numbers are given to places in their order, and nothing else changes. -/
theorem handOutAll_spec (f : Forest) (ps : List Place) :
    (f.handOutAll ps).1.trees = f.trees ∧
      (∀ m q, f.place? m = some q → (f.handOutAll ps).1.place? m = some q) ∧
      List.Forall₂ (fun n p => (f.handOutAll ps).1.place? n = some p) (f.handOutAll ps).2 ps := by
  induction ps generalizing f with
  | nil => exact ⟨rfl, fun _ _ h => h, .nil⟩
  | cons p ps ih =>
    obtain ⟨htrees, hkept, hnumbers⟩ := ih (f.handOut p).1
    refine ⟨htrees, fun m q h => hkept m q (place_handOut h p), .cons ?_ hnumbers⟩
    exact hkept _ p (place_handedOut f p)

variable {f g : Forest} {w : Place} {t : Tag} {c : List Node}

/-- The second forest is the first with the content at a place pruned: every other node has kept its number, and the
numbers of the blank texts lead nowhere. -/
structure Pruned (f g : Forest) (w : Place) (c : List Node) : Prop where
  trees : g.trees = f.trees.modify w.tree fun d => d.update w.address fun _ => Fragment.prune c
  kept : ∀ m a n, f.place? m = some (w.below a) → Xml.nodeAt? c a = some n → a ∉ Fragment.blankTexts c →
    ∃ a', g.place? m = some (w.below a') ∧ Xml.nodeAt? (Fragment.prune c) a' = some (Fragment.pruneNode n)
  gone : ∀ m a, f.place? m = some (w.below a) → a ∈ Fragment.blankTexts c → g.place? m = none
  outside : ∀ m q, f.place? m = some q → (∀ a ≠ [], q ≠ w.below a) → g.place? m = some q

/-- Only texts are found. -/
theorem onlyTexts_laysOut (lays : Bool) (c : List Node) : Xml.OnlyTexts (Fragment.laysOut lays c) c :=
  fun _ h => Fragment.exists_text_of_laysOut h

theorem Lacks.pruned (h : f.Lacks g w (Fragment.laysOut true c)) (hw : f.node? w = some (.element t c)) :
    f.Pruned g w c where
  trees := by
    rw [h.trees]
    exact trees_congr hw (Fragment.remaining_laysOut true c)
  kept m a n hm hn hnot := by
    have hleft : Fragment.laysOut true c a = false := by
      rw [Fragment.mem_blankTexts_iff] at hnot
      exact Bool.eq_false_iff.mpr hnot
    have hne : a ≠ [] := by
      rintro rfl
      rw [Xml.nodeAt?_nil] at hn
      cases hn
    obtain ⟨a', ha'⟩ := (onlyTexts_laysOut true c).exists_newAddress hleft hn
    refine ⟨a', ?_, ?_⟩
    · rw [h.places, hm, Option.bind_some, without_below, ha']
      rfl
    · rw [Fragment.prune, ← Fragment.remaining_laysOut, Xml.nodeAt?_remaining ha' hne, hn, Option.map_some,
        Fragment.remaining_under hn]
  gone m a hm ha := by
    rw [h.places, hm, Option.bind_some, without_below, Xml.newAddress?_of_gone (Fragment.mem_blankTexts_iff.mp ha)]
    · rfl
    · rintro rfl
      exact absurd (Fragment.mem_blankTexts_iff.mp ha) (by simp [Fragment.laysOut])
  outside m q hm hq := by
    rw [h.places, hm, Option.bind_some]
    by_cases hbelow : ∃ a, q = w.below a
    · obtain ⟨a, rfl⟩ := hbelow
      rw [without_below]
      cases a with
      | nil => rfl
      | cons i a => exact absurd rfl (hq (i :: a) (List.cons_ne_nil i a))
    · exact without_outside _ (not_exists.mp hbelow)

/-- **The blank texts that have been found are taken out in any order.** -/
theorem exists_removeAll (hw : f.node? w = some (.element t c)) (hc : Xml.Apart c) {as : List Address}
    (has : as.Perm (Fragment.blankTexts c)) :
    ∃ g, (f.handOutAll (as.map w.below)).1.removeAll (f.handOutAll (as.map w.below)).2 = .ok g ∧ f.Pruned g w c := by
  obtain ⟨htrees, hkept, hnumbers⟩ := f.handOutAll_spec (as.map w.below)
  generalize hhanded : f.handOutAll (as.map w.below) = handed at *
  obtain ⟨f₁, ns⟩ := handed
  have hw₁ : f₁.node? w = some (.element t c) := by
    rw [node?, tree, htrees]
    exact hw
  have hplaces : List.Forall₂ (fun n a => f₁.place? n = some (w.below a)) ns as := by
    rw [List.forall₂_map_right_iff] at hnumbers
    exact hnumbers
  have hdistinct : as.Nodup := has.nodup_iff.mpr (Fragment.nodup_blankTexts c)
  have htexts : ∀ a ∈ as, (false = false) ∧ ∃ value, Xml.nodeAt? c a = some (.text value) := fun a ha =>
    ⟨rfl, Fragment.exists_text_of_laysOut (Fragment.mem_blankTexts_iff.mp (has.subset ha))⟩
  obtain ⟨g, hremove, hlacks⟩ := (f₁.lacks_nothing w).removeAll hw₁ hc (fun _ h => absurd h Bool.false_ne_true)
    hplaces hdistinct htexts
  have hgone : (fun a => false || as.contains a) = Fragment.laysOut true c := by
    funext a
    rw [Bool.false_or, Bool.eq_iff_iff, List.contains_iff_mem, has.mem_iff, Fragment.mem_blankTexts_iff]
  have hpruned := (hgone ▸ hlacks).pruned hw₁
  refine ⟨g, hremove, ?_, fun m a n hm => hpruned.kept m a n (hkept m _ hm),
    fun m a hm => hpruned.gone m a (hkept m _ hm), fun m q hm => hpruned.outside m q (hkept m _ hm)⟩
  rw [hpruned.trees, htrees]

theorem Pruned.node (h : f.Pruned g w c) (hw : f.node? w = some (.element t c)) :
    g.node? w = some (.element t (Fragment.prune c)) := by
  have htree : g.tree w = (f.tree w).update w.address fun _ => Fragment.prune c := by
    rw [tree, h.trees, List.getElem?_modify_eq, tree_of_lt (lt_of_node hw)]
    rfl
  rw [node?, htree]
  exact Xml.Document.node_update hw _

/-- The loops come to an end without an error. -/
theorem exists_removeBlanks {wrapper : Nat} (hplace : f.place? wrapper = some w)
    (hw : f.node? w = some (.element t c)) (hc : Xml.Apart c) :
    ∃ g, f.removeBlanks wrapper = .ok g ∧ f.Pruned g w c := by
  obtain ⟨g, hremove, hpruned⟩ := exists_removeAll hw hc (List.reverse_perm (Fragment.blankTexts c))
  refine ⟨g, ?_, hpruned⟩
  rw [removeBlanks, place_of_some hplace]
  dsimp only [bind, Except.bind]
  rw [Xml.Document.children_of_node hw]
  exact hremove

/-- **Taking out blank texts is a filter.**  The search ends; what it has found can be taken out in any order, and what
is left then is the content pruned.  Doing it again changes nothing. -/
theorem blank_texts_filtered {wrapper : Nat} (hplace : f.place? wrapper = some w)
    (hw : f.node? w = some (.element t c)) (hc : Xml.Apart c) :
    Fragment.Searches [] [⟨[], c, true⟩] (Fragment.blankTexts c) ∧
      (∀ as : List Address, as.Perm (Fragment.blankTexts c) → ∃ g,
        (f.handOutAll (as.map w.below)).1.removeAll (f.handOutAll (as.map w.below)).2 = .ok g ∧ f.Pruned g w c) ∧
      (∃ g g', f.removeBlanks wrapper = .ok g ∧ f.Pruned g w c ∧ g.removeBlanks wrapper = .ok g' ∧
        g'.trees = g.trees) ∧
      Fragment.strip c = Fragment.prune c ∧ Fragment.strip (Fragment.strip c) = Fragment.strip c ∧
      ∀ (t : Tag) (k : List Node), k.any Node.isElement = false → Fragment.pruneNode (.element t k) = .element t k := by
  have hstrip := Fragment.strip_eq_prune hc
  have hpruned : Xml.Apart (Fragment.prune c) := Fragment.apart_prune hc
  have htwice : Fragment.prune (Fragment.prune c) = Fragment.prune c := Fragment.pruneContent_twice true c
  refine ⟨Fragment.exists_searches c, fun as has => exists_removeAll hw hc has, ?_, hstrip, ?_,
    Fragment.pruneNode_of_no_element⟩
  · obtain ⟨g, hg, hfirst⟩ := exists_removeBlanks hplace hw hc
    have hagain : g.place? wrapper = some w := by
      refine hfirst.outside wrapper w hplace fun a ha heq => ha ?_
      simpa [Place.below] using congrArg Place.address heq
    obtain ⟨g', hg', hsecond⟩ := exists_removeBlanks hagain (hfirst.node hw) hpruned
    refine ⟨g, g', hg, hfirst, hg', ?_⟩
    have hsame (d : Document) : (d.update w.address fun _ => Fragment.prune c).update w.address
        (fun _ => Fragment.prune (Fragment.prune c)) = d.update w.address fun _ => Fragment.prune c := by
      rw [Xml.Document.update_update, htwice]
    rw [hsecond.trees, hfirst.trees, List.modify_modify_eq]
    simp only [Function.comp_def, hsame]
  · rw [hstrip, Fragment.strip_eq_prune hpruned, htwice]

end Forest

namespace Sample

/-- A wrapper around `<q> <e/> x<!--c--> </q>` and `<p> </p>`, with blanks between them. -/
def laidOut : List Node :=
  [.text " ", element "q" [.text " ", element "e" [], .text " x", .comment "c", .text " "], .text "\n",
    element "p" [.text " "], .text "\t"]

/-- The fragment, of which the wrapper and the element `p` have been handed out. -/
def laidOutForest : Forest := ⟨[⟨[element "w" laidOut]⟩], [some ⟨0, [0]⟩, some ⟨0, [0, 3]⟩]⟩

/-- What it comes to. -/
def compacted : List Node := [element "q" [element "e" [], .text " x", .comment "c"], element "p" [.text " "]]

end Sample

/-- Five of six blank texts are taken out, in the order in which they are found and in the opposite one, and the text of
the element without elements stays with its number. -/
theorem laid_out_filtered :
    Xml.Apart Sample.laidOut ∧ Fragment.prune Sample.laidOut = Sample.compacted ∧
      (∃ g, Sample.laidOutForest.removeBlanks 0 = .ok g ∧ g.trees = [⟨[Sample.element "w" Sample.compacted]⟩] ∧
        ∃ a, g.place? 1 = some ⟨0, 0 :: a⟩ ∧ Xml.nodeAt? Sample.compacted a = some (Sample.element "p" [.text " "])) ∧
      ∃ g, (Sample.laidOutForest.handOutAll ((Fragment.blankTexts Sample.laidOut).map
        (Place.below ⟨0, [0]⟩))).1.removeAll (Sample.laidOutForest.handOutAll
          ((Fragment.blankTexts Sample.laidOut).map (Place.below ⟨0, [0]⟩))).2 = .ok g ∧
        g.trees = [⟨[Sample.element "w" Sample.compacted]⟩] := by
  have hapart : Xml.Apart Sample.laidOut := by
    have hblank (value : String) : Xml.Apart [.text value] := .text (by simp) .nil
    have hq : Xml.Apart [.text " ", Sample.element "e" [], .text " x", .comment "c", .text " "] :=
      .text (by simp [Sample.element, Node.isText])
        (.element .nil (.text (by simp [Node.isText]) (.comment (hblank " "))))
    exact .text (by simp [Sample.element, Node.isText])
      (.element hq (.text (by simp [Sample.element, Node.isText]) (.element (hblank " ") (hblank "\t"))))
  have hprune : Fragment.prune Sample.laidOut = Sample.compacted := by rfl
  have hplace : Sample.laidOutForest.place? 0 = some ⟨0, [0]⟩ := rfl
  have hnode : Sample.laidOutForest.node? ⟨0, [0]⟩ = some (Sample.element "w" Sample.laidOut) := rfl
  obtain ⟨-, horders, ⟨g, -, hremove, hpruned, -⟩, -⟩ := Forest.blank_texts_filtered hplace hnode hapart
  obtain ⟨g', hremove', hpruned'⟩ := horders _ (List.Perm.refl _)
  obtain ⟨a, ha, hp⟩ := hpruned.kept 1 [3] _ rfl rfl (by decide)
  exact ⟨hapart, hprune, ⟨g, hremove, hpruned.trees.trans (by rfl), a, ha, hp⟩, g', hremove',
    hpruned'.trees.trans (by rfl)⟩

/-! ## Summary

**What is established.**  For every content whose texts stand apart, which every content read from markup is
(`ReadTexts`): the search ends and finds each blank text that lays the content out once; taking these out by their
numbers meets no number that is gone already, in whatever order; what is left is the content pruned; and all other
nodes keep their numbers.

**What is not.**  Where two texts stand side by side, removing what is between them joins them, and a blank text may
become a part of another.  Then the order would matter.  No such content is ever stripped, but nothing is claimed of
one.
-/

end Regraft
