import Regraft.Proofs.Calls
import Regraft.Proofs.Draining
import Regraft.Proofs.TextsApart
/-!
# The text that begins an element

The text that begins an element is a field of it, although it is kept as a node among others.  It can be set and read
back, the last of two texts stays, and setting the text that is there changes nothing (`leading_text_set`).

Setting it is up to two edits of a tree that joins texts by itself.  A text that is there is taken out, which moves all
nodes behind it one place down.  A text that is not empty is then put before the node that is first now: if that is a
text, the two become one under the number of the old one and no node moves, and otherwise all nodes move one place up.
`setText_eq` follows both edits in every element, with what they do to the content and to the numbers of its nodes.

Where no two texts stand side by side the second edit joins nothing (`placedShift_of_apart`).  So one node goes out and
one comes in, all others stay in order and keep their numbers, and no two texts stand side by side afterwards
(`SetsText`, `sets_of_setText`).

An empty text is a node that stands for no character of a document.  It can begin an element, but it is not set: what
remains then is the content without it.
-/

namespace Regraft

open Xml (Address Document Node Tag)

namespace Xml

variable {c : List Node}

/-! ## 1. Empty texts

Texts without characters make no difference to a document that is written.  `withoutEmptyTexts` is that document. -/

mutual

/-- A node without the empty texts in it. -/
def Node.withoutEmptyTexts : Node → Node
  | .element t k => .element t (withoutEmptyTexts k)
  | n => n

/-- A content without the empty texts in it, at any depth. -/
def withoutEmptyTexts : List Node → List Node
  | [] => []
  | n :: c => if n.textValue? = some "" then withoutEmptyTexts c else n.withoutEmptyTexts :: withoutEmptyTexts c

end

/-- A document without the empty texts in it. -/
def Document.withoutEmptyTexts (d : Document) : Document := ⟨Xml.withoutEmptyTexts d.content⟩

theorem withoutEmptyTexts_modify {f : Node → Node} (hf : ∀ n, (f n).textValue? = n.textValue?) {i : Nat}
    (h : ∀ n, (c)[i]? = some n → (f n).withoutEmptyTexts = n.withoutEmptyTexts) :
    withoutEmptyTexts (c.modify i f) = withoutEmptyTexts c := by
  induction c generalizing i with
  | nil => rw [List.modify_nil]
  | cons n c ih =>
    cases i with
    | zero => rw [List.modify_zero_cons, withoutEmptyTexts, withoutEmptyTexts, hf, h n rfl]
    | succ i =>
      have hrest := ih fun m hm => h m hm
      rw [List.modify_succ_cons, withoutEmptyTexts, withoutEmptyTexts, hrest]

/-- Only empty texts are lost from a document if only empty texts are lost from a content in it. -/
theorem withoutEmptyTexts_updateContent {f : List Node → List Node} {a : Address} {t : Tag} {k : List Node}
    (ha : nodeAt? c a = some (.element t k)) (h : withoutEmptyTexts (f k) = withoutEmptyTexts k) :
    withoutEmptyTexts (updateContent f a c) = withoutEmptyTexts c := by
  induction a generalizing c with
  | nil =>
    rw [nodeAt?_nil] at ha
    cases ha
  | cons i a ih =>
    rw [updateContent]
    refine withoutEmptyTexts_modify (fun n => by cases n <;> rfl) fun n hn => ?_
    cases n with
    | element t' k' =>
      have hinside : withoutEmptyTexts (updateContent f a k') = withoutEmptyTexts k' := by
        cases a with
        | nil =>
          have heq : some (Node.element t' k') = some (.element t k) := hn.symm.trans ha
          cases heq
          exact h
        | cons j a =>
          rw [nodeAt?_cons_cons, hn] at ha
          exact ih ha
      simp only [Node.withoutEmptyTexts, hinside]
    | text value => rfl
    | comment value => rfl
    | instruction target data => rfl

/-- Only an empty text can be lost when the text that is there is set: it is taken out and not put back. -/
theorem withoutEmptyTexts_setLeadingText_leadingText (h : TextsApart c) :
    withoutEmptyTexts (setLeadingText ((Node.leadingText c).getD "") c) = withoutEmptyTexts c := by
  rw [setLeadingText_leadingText h]
  split
  · rename_i hleading
    rcases begins_or c with ⟨value, heq⟩ | ⟨heq, -⟩
    · rw [heq] at hleading ⊢
      cases hleading
      simp [withoutEmptyTexts, Node.textValue?, otherNodes]
    · rw [heq]
  · rfl

end Xml

/-! ## 2. The two edits

Both edits as they are made in the tree, with all that a number can be moved by.  Nothing is assumed here about the
texts beside them. -/

namespace Forest

/-- The forest with a content in place of another, whose nodes have moved. -/
def withContent (f : Forest) (p : Place) (shift : Nat → Option Nat) (c : List Node) : Forest :=
  (f.relocate p.tree (Xml.Address.shiftAt p.address shift)).update p fun _ => c

/-- Where the nodes of a content stand once its leading text is out. -/
def clearedShift (c : List Node) : Nat → Option Nat :=
  if c.head?.any Node.isText then Xml.Address.without 0 else some

/-- Where the nodes of a content stand once a text has been put before them: where they were, if the text has become
a part of the first. -/
def placedShift (value : String) (c : List Node) : Nat → Option Nat :=
  if !value.isEmpty && c.head?.any (!·.isText) then fun i => some (i + 1) else some

/-- Where the nodes of a content stand once its leading text has been replaced. -/
def textShift (c : List Node) (value : String) (i : Nat) : Option Nat :=
  (clearedShift c i).bind (placedShift value (Xml.otherNodes c))

variable {f g : Forest} {n : Nat} {p : Place} {t : Tag} {c : List Node}

theorem tree_withContent (hnode : f.node? p = some (.element t c)) (shift : Nat → Option Nat) (c' : List Node) :
    (f.withContent p shift c').tree p = (f.tree p).update p.address fun _ => c' := by
  show ((f.trees.modify p.tree _)[p.tree]?).getD ⟨[]⟩ = _
  rw [List.getElem?_modify_eq, tree_of_lt (lt_of_node hnode)]
  rfl

theorem node_withContent (hnode : f.node? p = some (.element t c)) (shift : Nat → Option Nat) (c' : List Node) :
    (f.withContent p shift c').node? p = some (.element t c') := by
  rw [node?, tree_withContent hnode]
  exact Xml.Document.node_update hnode _

theorem place_withContent (f : Forest) (p : Place) (shift : Nat → Option Nat) (c' : List Node) (m : Nat) :
    (f.withContent p shift c').place? m = (f.place? m).bind fun q =>
      if q.tree = p.tree then (Xml.Address.shiftAt p.address shift q.address).map (⟨p.tree, ·⟩) else some q :=
  place_relocate f p.tree _ m

/-- An edit of a content that moves its nodes puts another content in its place. -/
theorem update_eq_withContent (hnode : f.node? p = some (.element t c)) (shift : Nat → Option Nat)
    (change : List Node → List Node) :
    (f.relocate p.tree (Xml.Address.shiftAt p.address shift)).update p change = f.withContent p shift (change c) :=
  congrArg (Forest.mk · _) (trees_congr hnode rfl)

theorem update_some (hnode : f.node? p = some (.element t c)) (change : List Node → List Node) :
    f.update p change = f.withContent p some (change c) := by
  have hsame := update_eq_withContent hnode some change
  rw [relocate_some] at hsame
  exact hsame

/-- One content after another in the same place. -/
theorem withContent_withContent (f : Forest) (p : Place) (first second : Nat → Option Nat) (c₁ c₂ : List Node) :
    (f.withContent p first c₁).withContent p second c₂ = f.withContent p (fun i => (first i).bind second) c₂ := by
  have hplaces : ((f.withContent p first c₁).withContent p second c₂).places =
      (f.withContent p (fun i => (first i).bind second) c₂).places := by
    show ((f.relocate p.tree _).relocate p.tree _).places = _
    rw [relocate_relocate]
    rfl
  have htrees : ((f.withContent p first c₁).withContent p second c₂).trees =
      (f.withContent p (fun i => (first i).bind second) c₂).trees := by
    show (f.trees.modify p.tree _).modify p.tree _ = f.trees.modify p.tree _
    rw [List.modify_modify_eq]
    simp only [Function.comp_def, Xml.Document.update_update]
  exact congrArg₂ Forest.mk htrees hplaces

theorem withContent_self (hnode : f.node? p = some (.element t c)) : f.withContent p some c = f := by
  have htrees : (f.trees.modify p.tree fun d => d.update p.address fun _ => c) = f.trees := by
    rw [trees_congr (v := fun k => k) hnode rfl]
    simp only [Xml.Document.update_self]
    exact List.modify_id ..
  rw [withContent, relocate_some]
  exact congrArg (Forest.mk · f.places) htrees

theorem firstChild_eq (hnode : f.node? p = some (.element t c)) : f.firstChild? p = c.head? := by
  rw [firstChild?, Xml.Document.children_of_node hnode]

/-- **The first edit leaves the other nodes**, one place down if a text was before them. -/
theorem cleared_eq (hnode : f.node? p = some (.element t c)) :
    (if (f.firstChild? p).any Node.isText then f.takeOut p 0 else f) =
      f.withContent p (clearedShift c) (Xml.otherNodes c) := by
  rw [firstChild_eq hnode, clearedShift]
  rcases Xml.begins_or c with ⟨value, heq⟩ | ⟨heq, hhead⟩
  · have hany : c.head?.any Node.isText = true := by
      rw [heq]
      rfl
    have hremoved : Xml.removeNode c 0 = Xml.otherNodes c := by
      rw [heq]
      exact removeNode_first _ _
    rw [if_pos hany, if_pos hany, takeOut_first, update_eq_withContent hnode, hremoved]
  · have hany : c.head?.any Node.isText = false := by
      cases hc : c.head? with
      | none => rfl
      | some n => exact hhead n hc
    rw [hany, heq]
    simp only [Bool.false_eq_true, if_false]
    exact (withContent_self hnode).symm

/-- **The second edit puts a text before them**, which moves them only if it does not become a part of the first. -/
theorem placed_eq (hnode : f.node? p = some (.element t c)) {value : String} (hvalue : value.isEmpty = false) :
    (match f.firstChild? p with
      | some _ => .ok (f.prepend p (.text value))
      | none => f.append p (.text value)) =
        (.ok (f.withContent p (placedShift value c) (Xml.prependNode (.text value) c)) : Except Error Forest) := by
  rw [firstChild_eq hnode]
  cases c with
  | nil =>
    have hcontainer : (f.tree p).isContainer p.address = true := Xml.Document.isContainer_of_node hnode
    have hshift : placedShift value [] = some := by simp [placedShift]
    dsimp only [List.head?_nil]
    rw [append, if_pos hcontainer, hshift]
    exact congrArg Except.ok (update_some hnode (Xml.appendNode · (.text value)))
  | cons m rest =>
    dsimp only [List.head?_cons]
    rw [prepend, firstChild_eq hnode]
    cases hm : m.isText with
    | true =>
      have hshift : placedShift value (m :: rest) = some := by simp [placedShift, hm]
      have hjoins : ((Node.text value).isText && (m :: rest).head?.any Node.isText) = true := hm
      rw [hshift, if_pos hjoins]
      exact congrArg Except.ok (update_some hnode _)
    | false =>
      have hshift : placedShift value (m :: rest) = fun i => some (i + 1) := by simp [placedShift, hm, hvalue]
      have hjoins : ((Node.text value).isText && (m :: rest).head?.any Node.isText) = false := hm
      rw [hshift, hjoins]
      exact congrArg Except.ok (update_eq_withContent hnode _ _)

/-- **Replacing a text is the two edits**, in every element. -/
theorem setText_eq (hplace : f.place? n = some p) (hnode : f.node? p = some (.element t c)) (value : String) :
    f.setText n value = .ok (f.withContent p (textShift c value) (Xml.setLeadingText value c)) := by
  rw [setText, place_of_some hplace]
  dsimp only [bind, Except.bind]
  rw [cleared_eq hnode]
  have hcleared := node_withContent hnode (clearedShift c) (Xml.otherNodes c)
  cases hempty : value.isEmpty with
  | true =>
    have hplaced : placedShift value (Xml.otherNodes c) = some := by simp [placedShift, hempty]
    have hshift : textShift c value = clearedShift c := by
      funext i
      rw [textShift, hplaced]
      exact Option.bind_fun_some _
    rw [hshift, Xml.setLeadingText_of_isEmpty hempty]
    rfl
  | false =>
    have hset : Xml.setLeadingText value c = Xml.prependNode (.text value) (Xml.otherNodes c) := by
      rw [Xml.setLeadingText_eq, hempty]
      rfl
    have hplaced := placed_eq hcleared hempty
    rw [withContent_withContent, ← hset] at hplaced
    exact hplaced

/-! ## 3. Texts that stand apart

Where no two texts stand side by side, the node behind a text is none.  So taking the text out leaves a content that
does not begin with a text, and the text that is put in front of that is joined to none. -/

/-- Where texts stand apart, the new text becomes a part of no other. -/
theorem placedShift_of_apart (h : Xml.TextsApart c) (value : String) {i : Nat} {x : Node}
    (hx : (Xml.otherNodes c)[i]? = some x) :
    placedShift value (Xml.otherNodes c) = if value.isEmpty then some else fun i => some (i + 1) := by
  have hany : (Xml.otherNodes c).head?.any (!·.isText) = true := by
    cases hothers : Xml.otherNodes c with
    | nil => simp [hothers] at hx
    | cons m rest =>
      have hm := h.isText_head m (by rw [hothers]; rfl)
      simp [hm]
  rw [placedShift, hany]
  cases value.isEmpty with
  | true => rfl
  | false => rfl

theorem clearedShift_add (c : List Node) (i : Nat) : clearedShift c (Xml.textsBefore c + i) = some i := by
  rw [clearedShift, Xml.textsBefore]
  split
  · rw [Xml.Address.without, if_neg (by omega), if_neg (by omega), Nat.add_sub_cancel_left]
  · rw [Nat.zero_add]

/-- The other nodes stay behind the text in their order. -/
theorem textShift_add (h : Xml.TextsApart c) (value : String) {i : Nat} {x : Node}
    (hx : (c)[Xml.textsBefore c + i]? = some x) :
    textShift c value (Xml.textsBefore c + i) = some (Xml.textsBefore (Xml.setLeadingText value c) + i) := by
  rw [← Xml.getElem?_otherNodes] at hx
  rw [textShift, clearedShift_add, Option.bind_some, placedShift_of_apart h value hx, Xml.textsBefore_setLeadingText h]
  split
  · rw [Nat.zero_add]
  · rw [Nat.add_comm]

/-- A change of one member that a function does not see. -/
theorem map_modify_eq {α β : Type} {f : α → β} {g : α → α} {l : List α} {i : Nat}
    (h : ∀ x, l[i]? = some x → f (g x) = f x) : (l.modify i g).map f = l.map f := by
  refine List.ext_getElem? fun j => ?_
  rw [List.getElem?_map, List.getElem?_map, List.getElem?_modify]
  by_cases hij : i = j
  · subst hij
    cases hx : l[i]? with
    | none => rfl
    | some x => simp [h x hx]
  · simp [hij]

/-- There is a document or a node at a place. -/
def Stands (f : Forest) (q : Place) : Prop := q.address = [] ∨ ∃ x, f.node? q = some x

/-- What a second text does to a child that is there is what it does without the first. -/
theorem textShift_twice (h : Xml.TextsApart c) (s value : String) {i : Nat} {x : Node} (hx : (c)[i]? = some x) :
    (textShift c s i).bind (textShift (Xml.setLeadingText s c) value) = textShift c value i := by
  by_cases hbefore : i < Xml.textsBefore c
  · -- the text that is replaced, which is gone either way
    have hgone : clearedShift c i = none := by
      rw [Xml.textsBefore] at hbefore
      rw [clearedShift]
      split at hbefore
      · rename_i hany
        obtain rfl : i = 0 := by omega
        rw [if_pos hany]
        rfl
      · exact absurd hbefore (Nat.not_lt_zero i)
    rw [textShift, textShift, hgone]
    rfl
  · obtain ⟨j, rfl⟩ : ∃ j, i = Xml.textsBefore c + j := ⟨i - Xml.textsBefore c, by omega⟩
    have hthere : (Xml.setLeadingText s c)[Xml.textsBefore (Xml.setLeadingText s c) + j]? = some x := by
      rw [← Xml.getElem?_otherNodes, Xml.otherNodes_setLeadingText h, Xml.getElem?_otherNodes]
      exact hx
    rw [textShift_add h s hx, Option.bind_some, textShift_add (h.setLeadingText s) value hthere,
      textShift_add h value hx, Xml.setLeadingText_twice h]

/-- The second forest is the first with a text at the beginning of an element, whose content becomes `c'`. -/
structure SetsText (f g : Forest) (p : Place) (t : Tag) (c c' : List Node) (value : String) : Prop where
  /-- The text is read, or none if it is empty. -/
  read : (g.tree p).ownText p.address = if value.isEmpty then none else some value
  node : g.node? p = some (.element t c')
  others : Xml.otherNodes c' = Xml.otherNodes c
  apart : Xml.TextsApart c'
  /-- Nothing changes but the content of the element. -/
  trees : g.trees = f.trees.modify p.tree fun d => d.update p.address fun _ => c'
  /-- The other nodes of the element keep their numbers, and so does what is in them. -/
  inside : ∀ m i a x, f.place? m = some (p.below ((Xml.textsBefore c + i) :: a)) →
    f.node? (p.below ((Xml.textsBefore c + i) :: a)) = some x →
    g.place? m = some (p.below ((Xml.textsBefore c' + i) :: a)) ∧
      g.node? (p.below ((Xml.textsBefore c' + i) :: a)) = some x
  outside : ∀ m q, f.place? m = some q → (∀ a ≠ [], q ≠ p.below a) → g.place? m = some q

/-- Both edits together are what replacing a text is to be. -/
theorem sets_of_setText (hnode : f.node? p = some (.element t c)) (hc : Xml.TextsApart c) (value : String) :
    f.SetsText (f.withContent p (textShift c value) (Xml.setLeadingText value c)) p t c (Xml.setLeadingText value c)
      value where
  read := by
    have hread := node_withContent hnode (textShift c value) (Xml.setLeadingText value c)
    rw [node?] at hread
    rw [Xml.Document.ownText, hread]
    exact Xml.leadingText_setLeadingText hc value
  node := node_withContent hnode _ _
  others := Xml.otherNodes_setLeadingText hc value
  apart := hc.setLeadingText value
  trees := rfl
  inside m i a x hm hx := by
    rw [node_below hnode (List.cons_ne_nil _ a)] at hx
    rw [node_below (node_withContent hnode _ _) (List.cons_ne_nil _ a)]
    -- Counted from behind the text, the children are the same.
    have hchild : (Xml.setLeadingText value c)[Xml.textsBefore (Xml.setLeadingText value c) + i]? =
        (c)[Xml.textsBefore c + i]? := by
      rw [← Xml.getElem?_otherNodes, ← Xml.getElem?_otherNodes, Xml.otherNodes_setLeadingText hc]
    obtain ⟨y, hy⟩ : ∃ y, (c)[Xml.textsBefore c + i]? = some y := by
      cases a with
      | nil => exact ⟨x, hx⟩
      | cons j a =>
        rw [Xml.nodeAt?_cons_cons] at hx
        cases hy : (c)[Xml.textsBefore c + i]? with
        | none => simp [hy] at hx
        | some y => exact ⟨y, rfl⟩
    constructor
    · rw [place_withContent, hm, Option.bind_some, Place.below, if_pos rfl, Xml.Address.shiftAt_child,
        textShift_add hc value hy]
      rfl
    · cases a with
      | nil => exact hchild.trans hx
      | cons j a =>
        rw [Xml.nodeAt?_cons_cons] at hx ⊢
        rw [hchild]
        exact hx
  outside m q hm hq := by
    rw [place_withContent, hm, Option.bind_some]
    exact shiftAt_outside hq _

/-- A second text moves a node that is there as it would without the first. -/
theorem place_twice (hnode : f.node? p = some (.element t c)) (hc : Xml.TextsApart c) (s value : String) {m : Nat}
    {q : Place} (hm : f.place? m = some q) (hq : f.Stands q) (c₁ c₂ : List Node) :
    (f.withContent p (fun i => (textShift c s i).bind (textShift (Xml.setLeadingText s c) value)) c₁).place? m =
      (f.withContent p (textShift c value) c₂).place? m := by
  rw [place_withContent, place_withContent, hm, Option.bind_some, Option.bind_some]
  by_cases hinside : ∃ i a, q = p.below (i :: a)
  · obtain ⟨i, a, rfl⟩ := hinside
    obtain ⟨y, hy⟩ : ∃ y, (c)[i]? = some y := by
      rcases hq with hroot | ⟨x, hx⟩
      · exact absurd (List.append_eq_nil_iff.mp hroot).2 (List.cons_ne_nil i a)
      · rw [node_below hnode (List.cons_ne_nil i a)] at hx
        cases a with
        | nil => exact ⟨x, hx⟩
        | cons j a =>
          rw [Xml.nodeAt?_cons_cons] at hx
          cases hy : (c)[i]? with
          | none => simp [hy] at hx
          | some y => exact ⟨y, rfl⟩
    rw [Place.below, if_pos rfl, if_pos rfl, Xml.Address.shiftAt_child, Xml.Address.shiftAt_child,
      textShift_twice hc s value hy]
  · have houtside : ∀ a ≠ [], q ≠ p.below a := by
      intro a ha heq
      obtain ⟨i, a, rfl⟩ := List.exists_cons_of_ne_nil ha
      exact hinside ⟨i, a, heq⟩
    rw [shiftAt_outside houtside, shiftAt_outside houtside]

/-- The last of two texts stays, as if the first had never been set. -/
theorem setText_setText (hplace : f.place? n = some p) (hnode : f.node? p = some (.element t c))
    (hc : Xml.TextsApart c) (s value : String) :
    ∃ g₁ g₂ g, f.setText n s = .ok g₁ ∧ g₁.setText n value = .ok g₂ ∧ f.setText n value = .ok g ∧
      g₂.trees = g.trees ∧ ∀ m q, f.place? m = some q → f.Stands q → g₂.place? m = g.place? m := by
  have hsets := sets_of_setText hnode hc s
  have hagain : (f.withContent p (textShift c s) (Xml.setLeadingText s c)).place? n = some p := by
    refine hsets.outside n p hplace fun a ha heq => ha ?_
    simpa [Place.below] using congrArg Place.address heq
  -- The second text is set in the content that the first has left, and the two changes of the content are one.
  have hsecond := setText_eq hagain hsets.node value
  rw [withContent_withContent, Xml.setLeadingText_twice hc] at hsecond
  exact ⟨_, _, _, setText_eq hplace hnode s, hsecond, setText_eq hplace hnode value, rfl,
    fun m q hm hq => place_twice hnode hc s value hm hq _ _⟩

/-- Setting the text that is there changes nothing, unless it is empty: then it is lost, and only it. -/
theorem setText_leadingText (hplace : f.place? n = some p) (hnode : f.node? p = some (.element t c))
    (hc : Xml.TextsApart c) :
    ∃ g, f.setText n ((Node.leadingText c).getD "") = .ok g ∧
      g.trees.map Document.withoutEmptyTexts = f.trees.map Document.withoutEmptyTexts ∧
      (Node.leadingText c ≠ some "" → g.trees = f.trees) := by
  refine ⟨_, setText_eq hplace hnode _, ?_, fun hne => ?_⟩
  · show (f.trees.modify p.tree _).map _ = _
    refine map_modify_eq fun d hd => ?_
    rw [tree_of_lt (lt_of_node hnode)] at hd
    cases hd
    exact congrArg Document.mk
      (Xml.withoutEmptyTexts_updateContent hnode (Xml.withoutEmptyTexts_setLeadingText_leadingText hc))
  · have hsame : (f.withContent p some c).trees = f.trees := congrArg Forest.trees (withContent_self hnode)
    rw [Xml.setLeadingText_leadingText hc, if_neg hne]
    exact hsame

/-- **The text that begins an element is a field of its own**, in every element whose texts stand apart. -/
theorem leading_text_set (hplace : f.place? n = some p) (hnode : f.node? p = some (.element t c))
    (hc : Xml.TextsApart c) :
    (∀ value, ∃ g, f.setText n value = .ok g ∧ f.SetsText g p t c (Xml.setLeadingText value c) value) ∧
      (∀ s value, ∃ g₁ g₂ g, f.setText n s = .ok g₁ ∧ g₁.setText n value = .ok g₂ ∧ f.setText n value = .ok g ∧
        g₂.trees = g.trees ∧ ∀ m q, f.place? m = some q → f.Stands q → g₂.place? m = g.place? m) ∧
      ∃ g, f.setText n (((f.tree p).ownText p.address).getD "") = .ok g ∧
        g.trees.map Document.withoutEmptyTexts = f.trees.map Document.withoutEmptyTexts ∧
        ((f.tree p).ownText p.address ≠ some "" → g.trees = f.trees) := by
  have hread : (f.tree p).ownText p.address = Node.leadingText c := by
    rw [node?] at hnode
    rw [Xml.Document.ownText, hnode]
    rfl
  rw [hread]
  exact ⟨fun value => ⟨_, setText_eq hplace hnode value, sets_of_setText hnode hc value⟩,
    setText_setText hplace hnode hc, setText_leadingText hplace hnode hc⟩

end Forest

namespace Sample

/-- The content of `<z>x<y/><!--c-->w</z>`. -/
def noted : List Node := [.text "x", element "y" [], .comment "c", .text "w"]

/-- The document, of which the root, the element in it and the last text have been handed out. -/
def notedForest : Forest := ⟨[⟨[element "z" noted]⟩], [some ⟨0, [0]⟩, some ⟨0, [0, 1]⟩, some ⟨0, [0, 3]⟩]⟩

end Sample

/-- A text is replaced, and taken away altogether; the element and the last text are still the same nodes. -/
theorem noted_text_set :
    Xml.TextsApart Sample.noted ∧
      (∃ g, Sample.notedForest.setText 0 "v" = .ok g ∧
        g.trees = [⟨[Sample.element "z" [.text "v", Sample.element "y" [], .comment "c", .text "w"]]⟩] ∧
        g.place? 1 = some ⟨0, [0, 1]⟩ ∧ g.place? 2 = some ⟨0, [0, 3]⟩) ∧
      ∃ g, Sample.notedForest.setText 0 "" = .ok g ∧
        g.trees = [⟨[Sample.element "z" [Sample.element "y" [], .comment "c", .text "w"]]⟩] ∧
        g.place? 1 = some ⟨0, [0, 0]⟩ ∧ g.place? 2 = some ⟨0, [0, 2]⟩ := by
  have hapart : Xml.TextsApart Sample.noted := by decide
  have hplace : Sample.notedForest.place? 0 = some ⟨0, [0]⟩ := rfl
  have hnode : Sample.notedForest.node? ⟨0, [0]⟩ = some (Sample.element "z" Sample.noted) := rfl
  obtain ⟨hset, -, -⟩ := Forest.leading_text_set hplace hnode hapart
  obtain ⟨g, hg, hsets⟩ := hset "v"
  obtain ⟨g', hg', hsets'⟩ := hset ""
  refine ⟨hapart, ⟨g, hg, hsets.trees.trans (by rfl), ?_, ?_⟩, g', hg', hsets'.trees.trans (by rfl), ?_, ?_⟩
  · exact (hsets.inside 1 0 [] _ rfl rfl).1
  · exact (hsets.inside 2 2 [] _ rfl rfl).1
  · exact (hsets'.inside 1 0 [] _ rfl rfl).1
  · exact (hsets'.inside 2 2 [] _ rfl rfl).1

/-! ## Summary

**What is established.**  In an element whose texts stand apart: setting a text and reading it gives the text, setting
it twice gives the second, and setting what has been read changes nothing but an empty text.  All nodes but the text
keep their numbers, their order and their contents.

**What is not.**  Where two texts stand side by side this fails, since the new text is joined to the second.  No tree
that is read or built has such texts (`TextsApart` is kept by every edit), but the hypothesis cannot be dropped. -/

end Regraft
