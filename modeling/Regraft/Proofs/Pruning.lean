import Regraft.Fragment
import Regraft.Proofs.TextsApart
/-!
# Blank texts that lay out a fragment

A fragment is searched for blank texts first, content by content, and what has been found is then taken out, node by
node.  What is left is what pruning leaves (`prune`), which goes through the tree once: blank texts are dropped at the
top and in every element that has an element in it (`strip_eq_prune`).  That holds where no two texts stand side by
side (`Apart`), as in everything that is read: taking a text out never joins two others then, and whatever stands before
it keeps its address.
-/

namespace Regraft

open Xml (Address Node Tag)

namespace Fragment

/-! ## 1. Address by address

This is what is taken out with addresses instead of numbers.  `BlankTexts` shows that it makes no difference. -/

/-- A content with the node at an address taken out. -/
def removeAt (content : List Node) (a : Address) : List Node :=
  match a.getLast? with
  | some i => Xml.updateContent (Xml.removeNode · i) a.dropLast content
  | none => content

/-- A content without the blank texts that only lay it out. -/
def strip (content : List Node) : List Node := (blankTexts content).foldl removeAt content

/-! ## 2. Pruning

The specification, by recursion on the tree: a blank text is dropped at the top, and where an element stands beside it.
-/

mutual

/-- A node without the blank texts that lay out its content. -/
def pruneNode : Node → Node
  | .element t k => .element t (pruneContent (k.any Node.isElement) k)
  | n => n

/-- A content pruned below, and without its own blank texts if they lay it out. -/
def pruneContent (lays : Bool) : List Node → List Node
  | [] => []
  | n :: c => if lays && isBlankText n then pruneContent lays c else pruneNode n :: pruneContent lays c

end

/-- A fragment without the blank texts that lay it out: all of them at the top, and further down those that have an
element beside them. -/
def prune (content : List Node) : List Node := pruneContent true content

theorem isBlankText_pruneNode (n : Node) : isBlankText (pruneNode n) = isBlankText n := by
  cases n with
  | element t k =>
    simp only [pruneNode]
    rfl
  | text value => simp only [pruneNode]
  | comment value => simp only [pruneNode]
  | instruction target data => simp only [pruneNode]

theorem isText_pruneNode (n : Node) : (pruneNode n).isText = n.isText := by
  cases n with
  | element t k =>
    simp only [pruneNode]
    rfl
  | text value => simp only [pruneNode]
  | comment value => simp only [pruneNode]
  | instruction target data => simp only [pruneNode]

theorem isText_of_isBlankText {n : Node} (h : isBlankText n = true) : n.isText = true := by
  cases n with
  | text value => rfl
  | element t k => cases h
  | comment value => cases h
  | instruction target data => cases h

theorem pruneContent_eq (lays : Bool) (c : List Node) :
    pruneContent lays c = (c.map pruneNode).filter fun n => !(lays && isBlankText n) := by
  induction c with
  | nil => rw [pruneContent]; rfl
  | cons n c ih =>
    rw [pruneContent, List.map_cons, List.filter_cons, isBlankText_pruneNode, ih]
    cases lays && isBlankText n <;> rfl

/-! ## 3. Blank texts in the order of the search

The search keeps a stack, so that it finds what is in the elements of a content before what is in the content, and the
last element first.  The list that it makes is described by recursion on the tree (`blanksInside`). -/

/-- The positions of the blank texts in a content whose first node is at position `i`, last first. -/
def blankPositions (i : Nat) : List Node → List Nat
  | [] => []
  | n :: c => blankPositions (i + 1) c ++ if isBlankText n then [i] else []

mutual

/-- The blank texts in a node, with their addresses in its content. -/
def blanksInNode : Node → List Address
  | .element _ k => blanksInside 0 k ++ if k.any Node.isElement then (blankPositions 0 k).map fun i => [i] else []
  | _ => []

/-- The blank texts in the elements of a content whose first node is at position `i`. -/
def blanksInside (i : Nat) : List Node → List Address
  | [] => []
  | n :: c => (blanksInNode n).map (i :: ·) ++ blanksInside (i + 1) c

end

/-- The contents of the elements in a content whose first node is at position `i`. -/
def elementsFrom (a : Address) (i : Nat) : List Node → List Pending
  | [] => []
  | .element _ k :: c => ⟨a ++ [i], k, false⟩ :: elementsFrom a (i + 1) c
  | _ :: c => elementsFrom a (i + 1) c

namespace Pending

/-- All blank texts to take out of a content that is searched. -/
def all (p : Pending) : List Address := (blanksInside 0 p.content).map (p.address ++ ·) ++ p.blanks

theorem blanks_eq (p : Pending) :
    p.blanks = if p.atTop || p.content.any Node.isElement then
      (blankPositions 0 p.content).map fun j => p.address ++ [j] else [] := by
  have hpositions (c : List Node) : ∀ i, ((c.zipIdx i).filterMap fun m =>
      if isBlankText m.1 then some (p.address ++ [m.2]) else none).reverse =
        (blankPositions i c).map fun j => p.address ++ [j] := by
    induction c with
    | nil => exact fun i => rfl
    | cons n c ih =>
      intro i
      rw [List.zipIdx_cons, List.filterMap_cons, blankPositions, List.map_append, ← ih]
      cases isBlankText n <;> simp
  rw [← hpositions]
  rfl

theorem inside_eq (p : Pending) : p.inside = (elementsFrom p.address 0 p.content).reverse := by
  have helements (c : List Node) : ∀ i, ((c.zipIdx i).filterMap fun m =>
      if m.1.isElement then some (⟨p.address ++ [m.2], m.1.content, false⟩ : Pending) else none) =
        elementsFrom p.address i c := by
    induction c with
    | nil => exact fun i => rfl
    | cons n c ih =>
      intro i
      rw [List.zipIdx_cons, List.filterMap_cons, ih]
      cases n <;> rfl
  rw [← helements]
  rfl

/-- The search of a content finds what is in its elements, the first of them last, after its own. -/
theorem all_eq (p : Pending) : p.all = p.inside.reverse.flatMap all ++ p.blanks := by
  have hinside (c : List Node) : ∀ i, (blanksInside i c).map (p.address ++ ·) =
      (elementsFrom p.address i c).flatMap all := by
    induction c with
    | nil => exact fun i => rfl
    | cons n c ih =>
      intro i
      rw [blanksInside, List.map_append, ih]
      cases n with
      | element t k =>
        rw [elementsFrom, List.flatMap_cons, all, blanks_eq, blanksInNode, Bool.false_or]
        split <;> simp [Function.comp_def]
      | text value => rfl
      | comment value => rfl
      | instruction target data => rfl
  rw [all, inside_eq, List.reverse_reverse, hinside]

/-- The number of steps that the search of a content can take. -/
def weight (p : Pending) : Nat := contentCount p.content + 1

/-- The number of steps that the search of some contents can take. -/
def weights : List Pending → Nat
  | [] => 0
  | p :: rest => p.weight + weights rest

theorem weights_append (ps qs : List Pending) : weights (ps ++ qs) = weights ps + weights qs := by
  induction ps with
  | nil => rw [List.nil_append, weights, Nat.zero_add]
  | cons p ps ih => rw [List.cons_append, weights, weights, ih, Nat.add_assoc]

theorem weights_reverse (ps : List Pending) : weights ps.reverse = weights ps := by
  induction ps with
  | nil => rfl
  | cons p ps ih => rw [List.reverse_cons, weights_append, ih, weights, weights, weights, Nat.add_zero, Nat.add_comm]

theorem weight_inside (p : Pending) : weights p.inside < p.weight := by
  have helements (a : Address) (c : List Node) : ∀ i, weights (elementsFrom a i c) ≤ contentCount c := by
    induction c with
    | nil => exact fun i => Nat.le_refl 0
    | cons n c ih =>
      intro i
      have hrest := ih (i + 1)
      rw [contentCount]
      cases n with
      | element t k =>
        rw [elementsFrom, weights, nodeCount, weight]
        dsimp only
        omega
      | text value => exact Nat.le_add_left_of_le hrest
      | comment value => exact Nat.le_add_left_of_le hrest
      | instruction target data => exact Nat.le_add_left_of_le hrest
  rw [inside_eq, weights_reverse, weight]
  exact Nat.lt_succ_of_le (helements p.address p.content 0)

end Pending

/-- **The search finds all blank texts** of the contents that wait, those of the first of them last. -/
theorem searchBlanks_eq {fuel : Nat} {found : List Address} {pending : List Pending}
    (hfuel : Pending.weights pending ≤ fuel) :
    searchBlanks fuel found pending = pending.reverse.flatMap Pending.all ++ found := by
  induction fuel generalizing found pending with
  | zero =>
    cases pending with
    | nil => rfl
    | cons p rest => simp [Pending.weights, Pending.weight] at hfuel
  | succ fuel ih =>
    cases pending with
    | nil => rfl
    | cons p rest =>
      -- What is put before the rest weighs less than what it is found in.
      have hweight := p.weight_inside
      rw [Pending.weights] at hfuel
      rw [searchBlanks, ih]
      · rw [List.reverse_append, List.flatMap_append, List.reverse_cons, List.flatMap_append, List.flatMap_singleton,
          p.all_eq, List.append_assoc, List.append_assoc, List.append_assoc]
      · rw [Pending.weights_append]
        omega

/-- The search of a fragment finds the blank texts in its elements, and then those at the top. -/
theorem blankTexts_eq (content : List Node) :
    blankTexts content = blanksInside 0 content ++ (blankPositions 0 content).map fun i => [i] := by
  rw [blankTexts, searchBlanks_eq (by simp [Pending.weights, Pending.weight]), List.reverse_singleton,
    List.flatMap_singleton, Pending.all, Pending.blanks_eq]
  simp

/-! ## 4. Taking them out

Taking the last positions first leaves the earlier ones where they are.  So the blank texts of a content go one by one,
and those in its elements before them, with no address being off.  Texts that stand apart have no two that could be
joined when one between them goes (`foldl_removeAt_positions`). -/

/-- What is taken out below a child is taken out in it. -/
theorem removeAt_below (content : List Node) (i : Nat) {a : Address} (ha : a ≠ []) :
    removeAt content (i :: a) = content.modify i fun n =>
      match n with
      | .element t k => .element t (removeAt k a)
      | n => n := by
  obtain ⟨j, hj⟩ := Option.isSome_iff_exists.mp (List.getLast?_isSome.mpr ha)
  have hlast : (i :: a).getLast? = some j := by rw [List.getLast?_cons, hj]; rfl
  rw [removeAt, hlast, List.dropLast_cons_of_ne_nil ha]
  show content.modify i _ = content.modify i _
  congr 1
  funext n
  cases n with
  | element t k =>
    dsimp only
    rw [removeAt, hj]
  | text value => rfl
  | comment value => rfl
  | instruction target data => rfl

theorem modify_concat {α : Type} (f : α → α) (l : List α) (n : α) (c : List α) :
    (l ++ n :: c).modify l.length f = l ++ f n :: c := by
  induction l with
  | nil => rfl
  | cons m l ih => exact congrArg (m :: ·) ih

/-- Blank texts are taken out of an element by taking them out of its content. -/
theorem foldl_removeAt_below {as : List Address} (has : ∀ a ∈ as, a ≠ []) (l : List Node) (t : Tag)
    (k c : List Node) :
    (as.map (l.length :: ·)).foldl removeAt (l ++ .element t k :: c) = l ++ .element t (as.foldl removeAt k) :: c := by
  induction as generalizing k with
  | nil => rfl
  | cons a as ih =>
    obtain ⟨ha, has⟩ := List.forall_mem_cons.mp has
    rw [List.map_cons, List.foldl_cons, removeAt_below _ _ ha, modify_concat, ih has, List.foldl_cons]

/-- A text that is taken out leaves its neighbours as they are, if no text stands before it. -/
theorem removeNode_concat {l : List Node} (hl : ∀ n ∈ l.getLast?, n.isText = false) (n : Node) (c : List Node) :
    Xml.removeNode (l ++ n :: c) l.length = l ++ c := by
  have hdrop : (l ++ n :: c).drop (l.length + 1) = c := by simp
  have htake : (l ++ n :: c).take l.length = l := by simp
  rw [Xml.removeNode, hdrop, htake]
  cases c with
  | nil => simp
  | cons m c =>
    dsimp only
    rcases List.eq_nil_or_concat l with rfl | ⟨l, k, rfl⟩
    · rfl
    · rw [List.concat_eq_append] at hl ⊢
      have hk : k.isText = false := hl k (by simp)
      rw [Xml.appendNode_concat]
      cases k with
      | text value => cases hk
      | element t k => simp [Xml.joinNodes]
      | comment value => simp [Xml.joinNodes]
      | instruction target data => simp [Xml.joinNodes]

/-- The blank texts of a content are taken out of it, the last of them first. -/
theorem foldl_removeAt_positions {l c : List Node} (hc : Xml.Apart c)
    (hl : ∀ n ∈ l.getLast?, n.isText = true → ∀ m ∈ c.head?, m.isText = false) :
    ((blankPositions l.length c).map fun i => [i]).foldl removeAt (l ++ c) =
      l ++ c.filter fun n => !isBlankText n := by
  induction c generalizing l with
  | nil => rfl
  | cons n c ih =>
    -- The last node before what is left is this one, so the hypothesis goes on.
    have hnext : ∀ m ∈ (l ++ [n]).getLast?, m.isText = true → ∀ k ∈ c.head?, k.isText = false := by
      intro m hm htext
      obtain rfl : n = m := by simpa using hm
      cases hc with
      | text hhead _ => exact hhead
      | element _ _ => cases htext
      | comment _ => cases htext
      | instruction _ => cases htext
    have hrest := ih hc.tail hnext
    rw [List.length_append, List.length_singleton, List.append_assoc, List.singleton_append] at hrest
    rw [blankPositions, List.map_append, List.foldl_append, hrest, List.append_assoc, List.singleton_append,
      List.filter_cons]
    split
    · rename_i hblank
      rw [if_neg (by simp [hblank])]
      -- The node before a blank text is no text, so that nothing is joined when it goes.
      refine removeNode_concat (fun m hm => ?_) n _
      cases hm' : m.isText with
      | false => rfl
      | true =>
        have hn := hl m hm hm' n rfl
        rw [isText_of_isBlankText hblank] at hn
        cases hn
    · rename_i hblank
      rw [if_pos (by simp [hblank])]
      rfl

theorem blankPositions_map (c : List Node) : ∀ i, blankPositions i (c.map pruneNode) = blankPositions i c := by
  induction c with
  | nil => exact fun i => rfl
  | cons n c ih =>
    intro i
    rw [List.map_cons, blankPositions, blankPositions, ih, isBlankText_pruneNode]

theorem ne_nil_of_mem_blanksInside {a : Address} : ∀ {c : List Node} {i : Nat}, a ∈ blanksInside i c → a ≠ []
  | [], i, h => absurd h List.not_mem_nil
  | n :: c, i, h => by
    rw [blanksInside, List.mem_append] at h
    rcases h with h | h
    · obtain ⟨b, -, rfl⟩ := List.mem_map.mp h
      exact List.cons_ne_nil i b
    · exact ne_nil_of_mem_blanksInside h

/-- No texts come together where only texts are dropped. -/
theorem apart_filter {c : List Node} (hc : Xml.Apart c) {p : Node → Bool} (hp : ∀ n, n.isText = false → p n = true) :
    Xml.Apart (c.filter p) := by
  induction hc with
  | nil => exact .nil
  | element hk _ _ ih =>
    rw [List.filter_cons_of_pos (hp _ rfl)]
    exact .element hk ih
  | @text value c hhead _ ih =>
    rw [List.filter_cons]
    split
    · refine .text (fun m hm => ?_) ih
      cases c with
      | nil => cases hm
      | cons n c =>
        have hn := hhead n rfl
        rw [List.filter_cons_of_pos (hp n hn)] at hm
        cases hm
        exact hn
    · exact ih
  | comment _ ih =>
    rw [List.filter_cons_of_pos (hp _ rfl)]
    exact .comment ih
  | instruction _ ih =>
    rw [List.filter_cons_of_pos (hp _ rfl)]
    exact .instruction ih

/-- What is taken out of a content, once all has been taken out of its elements, is what pruning drops. -/
theorem foldl_removeAt_content (lays : Bool) {k : List Node}
    (hinside : (blanksInside 0 k).foldl removeAt k = k.map pruneNode) (hk : Xml.Apart (k.map pruneNode)) :
    (blanksInside 0 k ++ if lays then (blankPositions 0 k).map fun i => [i] else []).foldl removeAt k =
      pruneContent lays k := by
  rw [List.foldl_append, hinside, pruneContent_eq]
  cases lays with
  | true =>
    have hpositions := foldl_removeAt_positions (l := []) hk fun n hn => absurd hn (by simp)
    rw [List.length_nil, blankPositions_map] at hpositions
    exact hpositions
  | false => simp

/-- Texts that stand apart still do when blank ones are dropped. -/
theorem apart_pruneContent (lays : Bool) {k : List Node} (hk : Xml.Apart (k.map pruneNode)) :
    Xml.Apart (pruneContent lays k) := by
  rw [pruneContent_eq]
  refine apart_filter hk fun n hn => ?_
  cases hblank : isBlankText n with
  | false => simp
  | true => exact absurd (isText_of_isBlankText hblank) (by simp [hn])

theorem foldl_removeAt_inside {c : List Node} (hc : Xml.Apart c) :
    (∀ l, (blanksInside l.length c).foldl removeAt (l ++ c) = l ++ c.map pruneNode) ∧ Xml.Apart (c.map pruneNode) := by
  -- Positions count from the beginning, so what comes before the content is carried along.
  have hrest {n : Node} {c : List Node} (hn : blanksInNode n = [])
      (ih : ∀ l, (blanksInside l.length c).foldl removeAt (l ++ c) = l ++ c.map pruneNode) (l : List Node) :
      (blanksInside l.length (n :: c)).foldl removeAt (l ++ n :: c) = l ++ n :: c.map pruneNode := by
    have hc := ih (l ++ [n])
    rw [List.length_append, List.length_singleton, List.append_assoc, List.append_assoc] at hc
    rw [blanksInside, hn]
    exact hc
  induction hc with
  | nil => exact ⟨fun l => rfl, .nil⟩
  | @element t k c hk hc ihk ihc =>
    have hinside := foldl_removeAt_content (k.any Node.isElement) (k := k) (ihk.1 []) ihk.2
    refine ⟨fun l => ?_, ?_⟩
    · have hc := ihc.1 (l ++ [.element t (pruneContent (k.any Node.isElement) k)])
      rw [List.length_append, List.length_singleton, List.append_assoc, List.append_assoc] at hc
      rw [blanksInside, List.foldl_append, foldl_removeAt_below, blanksInNode, hinside, List.map_cons, pruneNode]
      · exact hc
      · intro a ha
        rw [blanksInNode, List.mem_append] at ha
        rcases ha with ha | ha
        · exact ne_nil_of_mem_blanksInside ha
        · split at ha
          · obtain ⟨i, -, rfl⟩ := List.mem_map.mp ha
            exact List.cons_ne_nil i []
          · cases ha
    · rw [List.map_cons, pruneNode]
      exact .element (apart_pruneContent _ ihk.2) ihc.2
  | text hhead hc ih =>
    simp only [List.map_cons, pruneNode]
    refine ⟨hrest (by simp only [blanksInNode]) ih.1, .text (fun n hn => ?_) ih.2⟩
    rw [List.head?_map] at hn
    obtain ⟨m, hm, rfl⟩ := Option.map_eq_some_iff.mp hn
    rw [isText_pruneNode]
    exact hhead m hm
  | comment hc ih =>
    simp only [List.map_cons, pruneNode]
    exact ⟨hrest (by simp only [blanksInNode]) ih.1, .comment ih.2⟩
  | instruction hc ih =>
    simp only [List.map_cons, pruneNode]
    exact ⟨hrest (by simp only [blanksInNode]) ih.1, .instruction ih.2⟩

/-- **What is left without the blank texts found is the content pruned.** -/
theorem strip_eq_prune {content : List Node} (hc : Xml.Apart content) : strip content = prune content := by
  obtain ⟨hinside, hapart⟩ := foldl_removeAt_inside hc
  rw [strip, blankTexts_eq]
  exact foldl_removeAt_content true (k := content) (hinside []) hapart

/-- In what is left no two texts stand side by side either. -/
theorem apart_prune {content : List Node} (hc : Xml.Apart content) : Xml.Apart (prune content) :=
  apart_pruneContent true (foldl_removeAt_inside hc).2

end Fragment

end Regraft
