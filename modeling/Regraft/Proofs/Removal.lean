import Mathlib.Data.List.Forall2
import Regraft.Proofs.Addresses
import Regraft.Proofs.Pruning
/-!
# Nodes taken out one by one

Nodes of a content are taken out under their numbers, one after the other.  What has been taken out so far is a set of
addresses, and the state that it leaves has a description without a history: a content in which the nodes at these
addresses are missing (`remaining`), and for every other node an address that counts only what is left before it
(`newAddress?`).  `Lacks.remove` is one step: a text that no text stands beside is still there, and taking it out adds
its address to the set and does nothing else.  So the order makes no difference (`Lacks.removeAll`).
-/

namespace Regraft

open Xml (Address Document Node Tag)

namespace Xml

/-! ## 1. Sets of addresses

A set of addresses is a function to `Bool`, so that it can be looked at from anywhere in the content: from the content
of one child, from further down, or from behind the first child.  Adding an address and then looking is looking and then
adding, or the address is not to be seen from there. -/

/-- A set of addresses as it is seen from the content of the child at a position. -/
def inside (gone : Address → Bool) (i : Nat) : Address → Bool := fun a => gone (i :: a)

/-- A set of addresses as it is seen from the content at an address. -/
def under (gone : Address → Bool) (a : Address) : Address → Bool := fun b => gone (a ++ b)

/-- A set of addresses as it is seen from behind the first child. -/
def behind (gone : Address → Bool) : Address → Bool
  | [] => gone []
  | i :: a => gone ((i + 1) :: a)

/-- A set of addresses with one more. -/
def also (gone : Address → Bool) (a : Address) : Address → Bool := fun b => gone b || b == a

variable {gone : Address → Bool}

theorem also_of_ne {a b : Address} (h : b ≠ a) : also gone a b = gone b := by
  simp [also, h]

theorem also_self (a : Address) : also gone a a = true := by
  simp [also]

theorem inside_also_self (i : Nat) (a : Address) : inside (also gone (i :: a)) i = also (inside gone i) a := by
  funext b
  simp [inside, also]

theorem inside_also_of_ne {i j : Nat} (h : j ≠ i) (a : Address) : inside (also gone (i :: a)) j = inside gone j := by
  funext b
  simp [inside, also, h]

theorem behind_also_zero (a : Address) : behind (also gone (0 :: a)) = behind gone := by
  funext b
  cases b <;> simp [behind, also]

theorem behind_also_succ (i : Nat) (a : Address) : behind (also gone ((i + 1) :: a)) = also (behind gone) (i :: a) := by
  funext b
  cases b <;> simp [behind, also]

/-! ## 2. What is left of a content

`remaining` follows the content down and strikes out what the set names.  What is inside a node that is struck out goes
with it, so only the set as it is seen from the nodes that stay matters further down. -/

mutual

/-- A node without the nodes at some addresses of its content. -/
def Node.remaining (gone : Address → Bool) : Node → Node
  | .element t k => .element t (remaining gone k)
  | n => n

/-- A content without the nodes at some addresses. -/
def remaining (gone : Address → Bool) : List Node → List Node
  | [] => []
  | n :: c => if gone [0] then remaining (behind gone) c else n.remaining (inside gone 0) :: remaining (behind gone) c

end

/-- The position of a child among those that are left. -/
def newPosition (gone : Address → Bool) : Nat → Nat
  | 0 => 0
  | i + 1 => newPosition gone i + if gone [i] then 0 else 1

/-- The address of a node that is left. -/
def newAddress? (gone : Address → Bool) : Address → Option Address
  | [] => some []
  | i :: a => if gone [i] then none else (newAddress? (inside gone i) a).map (newPosition gone i :: ·)

theorem newPosition_succ (gone : Address → Bool) (i : Nat) :
    newPosition gone (i + 1) = (if gone [0] then 0 else 1) + newPosition (behind gone) i := by
  induction i with
  | zero => simp [newPosition]
  | succ i ih =>
    rw [newPosition, ih, newPosition, Nat.add_assoc]
    rfl

theorem newPosition_le {i j : Nat} (h : i ≤ j) : newPosition gone i ≤ newPosition gone j := by
  induction h with
  | refl => exact Nat.le_refl _
  | step _ ih => exact Nat.le_trans ih (Nat.le_add_right _ _)

/-- A child that is left comes before those that came after it. -/
theorem newPosition_lt {i j : Nat} (hi : gone [i] = false) (h : i < j) : newPosition gone i < newPosition gone j := by
  have hnext : newPosition gone (i + 1) = newPosition gone i + 1 := by simp [newPosition, hi]
  have hle : newPosition gone (i + 1) ≤ newPosition gone j := newPosition_le h
  omega

theorem newPosition_ne {i j : Nat} (hi : gone [i] = false) (hj : gone [j] = false) (h : i ≠ j) :
    newPosition gone i ≠ newPosition gone j := by
  rcases Nat.lt_or_gt_of_ne h with h | h
  · exact Nat.ne_of_lt (newPosition_lt hi h)
  · exact Nat.ne_of_gt (newPosition_lt hj h)

/-- Only children before a position change it. -/
theorem newPosition_also_of_ne {a : Address} {j : Nat} (h : ∀ i < j, a ≠ [i]) :
    newPosition (also gone a) j = newPosition gone j := by
  induction j with
  | zero => rfl
  | succ j ih =>
    rw [newPosition, newPosition, ih fun i hi => h i (Nat.lt_succ_of_lt hi),
      also_of_ne fun heq => h j (Nat.lt_succ_self j) heq.symm]

theorem newPosition_also_of_lt {i j : Nat} (hi : gone [i] = false) (h : i < j) :
    newPosition (also gone [i]) j + 1 = newPosition gone j := by
  induction h with
  | refl =>
    have hbefore : newPosition (also gone [i]) i = newPosition gone i :=
      newPosition_also_of_ne fun k hk heq => Nat.ne_of_gt hk (List.cons.inj heq).1
    simp [newPosition, also_self, hi, hbefore]
  | @step j hij ih =>
    have hne : ([j] : Address) ≠ [i] := fun heq => Nat.ne_of_gt hij (List.cons.inj heq).1
    rw [newPosition, newPosition, also_of_ne hne, ← ih, Nat.add_right_comm]

/-- An address that goes on has a new address part by part. -/
theorem newAddress?_append (gone : Address → Bool) (a b : Address) :
    newAddress? gone (a ++ b) =
      (newAddress? gone a).bind fun a' => (newAddress? (under gone a) b).map (a' ++ ·) := by
  induction a generalizing gone with
  | nil =>
    show newAddress? gone b = (newAddress? gone b).map ([] ++ ·)
    simp
  | cons i a ih =>
    rw [List.cons_append, newAddress?, newAddress?, ih]
    split
    · rfl
    · cases newAddress? (inside gone i) a with
      | none => rfl
      | some a' =>
        show (Option.map _ (newAddress? (under (inside gone i) a) b)).map _ =
          (newAddress? (under (inside gone i) a) b).map _
        rw [Option.map_map]
        rfl

/-- A node that has been struck out has none. -/
theorem newAddress?_of_gone {a : Address} (h : gone a = true) (hne : a ≠ []) : newAddress? gone a = none := by
  obtain ⟨b, i, rfl⟩ : ∃ b i, a = b ++ [i] := ⟨_, _, (List.dropLast_append_getLast hne).symm⟩
  have hunder : under gone b [i] = true := h
  rw [newAddress?_append, newAddress?, hunder]
  cases newAddress? gone b <;> rfl

/-! ## 3. Nodes of what is left

A node that is left is found where `newAddress?` says, with the set as it is seen from there struck out inside it. -/

/-- What is left inside a node is its content with what is struck out there. -/
theorem content_remaining (gone : Address → Bool) (n : Node) :
    (n.remaining gone).content = remaining gone n.content := by
  cases n with
  | element t k => simp only [Node.remaining, Node.content]
  | text value => simp only [Node.remaining, Node.content, remaining]
  | comment value => simp only [Node.remaining, Node.content, remaining]
  | instruction target data => simp only [Node.remaining, Node.content, remaining]

/-- Striking out what is inside a node does not change its kind. -/
theorem isText_remaining (gone : Address → Bool) (n : Node) : (n.remaining gone).isText = n.isText := by
  cases n with
  | element t k =>
    simp only [Node.remaining]
    rfl
  | text value => simp only [Node.remaining]
  | comment value => simp only [Node.remaining]
  | instruction target data => simp only [Node.remaining]

/-- A child that is left is found at its new position. -/
theorem getElem?_remaining {i : Nat} (hi : gone [i] = false) (c : List Node) :
    (remaining gone c)[newPosition gone i]? = ((c)[i]?).map (Node.remaining (inside gone i)) := by
  induction i generalizing gone c with
  | zero =>
    cases c with
    | nil => simp [remaining]
    | cons n c => simp [remaining, hi, newPosition]
  | succ i ih =>
    cases c with
    | nil => simp [remaining]
    | cons n c =>
      have hrest : (remaining (behind gone) c)[newPosition (behind gone) i]? =
          ((c)[i]?).map (Node.remaining (inside gone (i + 1))) := ih hi c
      rw [remaining, newPosition_succ]
      split
      · rw [Nat.zero_add]
        exact hrest
      · rw [Nat.add_comm 1, List.getElem?_cons_succ]
        exact hrest

/-- A node that is left is found at its new address. -/
theorem nodeAt?_remaining {a a' : Address} (h : newAddress? gone a = some a') (hne : a ≠ []) (c : List Node) :
    nodeAt? (remaining gone c) a' = (nodeAt? c a).map (Node.remaining (under gone a)) := by
  induction a generalizing gone a' c with
  | nil => exact absurd rfl hne
  | cons i a ih =>
    rw [newAddress?] at h
    split at h
    · cases h
    · rename_i hi
      replace hi : gone [i] = false := by simpa using hi
      obtain ⟨b, hb, rfl⟩ := Option.map_eq_some_iff.mp h
      cases a with
      | nil =>
        cases hb
        exact getElem?_remaining hi c
      | cons j a =>
        have hbne : b ≠ [] := by
          rintro rfl
          rw [newAddress?] at hb
          split at hb
          · cases hb
          · obtain ⟨_, -, hnil⟩ := Option.map_eq_some_iff.mp hb
            cases hnil
        rw [nodeAt?_cons _ _ hbne, nodeAt?_cons _ _ (List.cons_ne_nil j a), getElem?_remaining hi]
        cases (c)[i]? with
        | none => rfl
        | some n =>
          show nodeAt? (n.remaining (inside gone i)).content b = _
          rw [content_remaining, ih hb (List.cons_ne_nil j a)]
          rfl

theorem contentAt_remaining {a a' : Address} (h : newAddress? gone a = some a') (c : List Node) :
    contentAt (remaining gone c) a' = remaining (under gone a) (contentAt c a) := by
  cases a with
  | nil =>
    cases h
    rfl
  | cons i a =>
    have hnode := nodeAt?_remaining h (List.cons_ne_nil i a) c
    rw [newAddress?] at h
    split at h
    · cases h
    · obtain ⟨b, -, rfl⟩ := Option.map_eq_some_iff.mp h
      rw [contentAt, contentAt, hnode]
      · cases nodeAt? c (i :: a) with
        | none => simp [remaining]
        | some n => simp [content_remaining]
      · exact List.cons_ne_nil i a
      · exact List.cons_ne_nil _ b

theorem nodeAt?_contentAt (c : List Node) (a : Address) (i : Nat) : nodeAt? c (a ++ [i]) = (contentAt c a)[i]? := by
  cases a with
  | nil => rfl
  | cons j a =>
    rw [nodeAt?_append c (List.cons_ne_nil j a) (List.cons_ne_nil i []), contentAt]
    · cases nodeAt? c (j :: a) <;> rfl
    · exact List.cons_ne_nil j a

/-! ## 4. One more node

Striking out one more node is what an edit does to a content from which others have been struck out already: it takes
out the node at the new address.  The same holds of the addresses of all others, which are moved up behind it. -/

theorem remaining_also_child {i : Nat} (hi : gone [i] = false) (c : List Node) :
    (remaining gone c).eraseIdx (newPosition gone i) = remaining (also gone [i]) c := by
  induction i generalizing gone c with
  | zero =>
    cases c with
    | nil => simp [remaining]
    | cons n c => simp [remaining, hi, newPosition, also_self, behind_also_zero]
  | succ i ih =>
    cases c with
    | nil => simp [remaining]
    | cons n c =>
      have hrest : (remaining (behind gone) c).eraseIdx (newPosition (behind gone) i) =
          remaining (also (behind gone) [i]) c := ih hi c
      rw [remaining, remaining, newPosition_succ, behind_also_succ, also_of_ne (by simp), inside_also_of_ne (by simp)]
      split
      · rw [Nat.zero_add]
        exact hrest
      · rw [Nat.add_comm 1, List.eraseIdx_cons_succ, hrest]

theorem remaining_also_inside {i : Nat} (hi : gone [i] = false) {a : Address} (ha : a ≠ []) {f : Node → Node}
    (hf : ∀ n : Node, f (n.remaining (inside gone i)) = n.remaining (also (inside gone i) a)) (c : List Node) :
    (remaining gone c).modify (newPosition gone i) f = remaining (also gone (i :: a)) c := by
  induction i generalizing gone c with
  | zero =>
    cases c with
    | nil => simp [remaining]
    | cons n c =>
      rw [remaining, remaining, also_of_ne (by simpa using ha.symm), behind_also_zero, inside_also_self, hi]
      exact congrArg (· :: remaining (behind gone) c) (hf n)
  | succ i ih =>
    cases c with
    | nil => simp [remaining]
    | cons n c =>
      have hrest : (remaining (behind gone) c).modify (newPosition (behind gone) i) f =
          remaining (also (behind gone) (i :: a)) c := ih hi hf c
      rw [remaining, remaining, newPosition_succ, behind_also_succ, also_of_ne (by simp), inside_also_of_ne (by simp)]
      split
      · rw [Nat.zero_add]
        exact hrest
      · rw [Nat.add_comm 1, List.modify_succ_cons, hrest]

/-- **What is left without one more node** is what was left, with that node taken out where it stood now. -/
theorem remaining_also {a a' : Address} (h : newAddress? gone a = some a') {i : Nat} (hi : gone (a ++ [i]) = false)
    (c : List Node) :
    updateContent (·.eraseIdx (newPosition (under gone a) i)) a' (remaining gone c) =
      remaining (also gone (a ++ [i])) c := by
  induction a generalizing gone a' c with
  | nil =>
    cases h
    exact remaining_also_child hi c
  | cons j a ih =>
    rw [newAddress?] at h
    split at h
    · cases h
    · rename_i hj
      replace hj : gone [j] = false := by simpa using hj
      obtain ⟨b, hb, rfl⟩ := Option.map_eq_some_iff.mp h
      refine remaining_also_inside hj (List.append_ne_nil_of_right_ne_nil a (List.cons_ne_nil i [])) (fun n => ?_) c
      cases n with
      | element t k =>
        simp only [Node.remaining]
        exact congrArg (Node.element t) (ih hb hi k)
      | text value => simp only [Node.remaining]
      | comment value => simp only [Node.remaining]
      | instruction target data => simp only [Node.remaining]

/-- A position is counted anew if the node that is taken out stands before it. -/
theorem without_newPosition {i j : Nat} (hi : gone [i] = false) (hj : gone [j] = false) (hji : j ≠ i) :
    Address.without (newPosition gone i) (newPosition gone j) = some (newPosition (also gone [i]) j) := by
  rw [Address.without]
  rcases Nat.lt_or_gt_of_ne hji with hlt | hlt
  · rw [if_pos (newPosition_lt hj hlt), newPosition_also_of_ne]
    intro k hk heq
    simp only [List.cons.injEq, and_true] at heq
    omega
  · have hless := newPosition_lt hi hlt
    have hone := newPosition_also_of_lt hi hlt
    rw [if_neg (by omega), if_neg (by omega)]
    congr 1
    omega

/-- The nodes that are left without one more child are moved as if that child were the first to be taken out of what
was left. -/
theorem newAddress?_also_child {i : Nat} (hi : gone [i] = false) (b : Address) :
    newAddress? (also gone [i]) b =
      (newAddress? gone b).bind (Address.shiftAt [] (Address.without (newPosition gone i))) := by
  cases b with
  | nil => rfl
  | cons j b =>
    rw [newAddress?, newAddress?]
    by_cases hji : j = i
    · subst hji
      rw [also_self, if_pos rfl]
      split
      · rfl
      · cases newAddress? (inside gone j) b with
        | none => rfl
        | some b' =>
          show none = Address.shiftAt [] (Address.without (newPosition gone j)) ([] ++ newPosition gone j :: b')
          rw [Address.shiftAt_child, Address.without, if_neg (Nat.lt_irrefl _), if_pos rfl]
          rfl
    · rw [also_of_ne (by simpa using hji), inside_also_of_ne hji]
      split
      · rfl
      · rename_i hj
        cases newAddress? (inside gone j) b with
        | none => rfl
        | some b' =>
          show some _ = Address.shiftAt [] _ ([] ++ newPosition gone j :: b')
          rw [Address.shiftAt_child, without_newPosition hi (by simpa using hj) hji]
          rfl

/-- So it is with any node that is taken out. -/
theorem newAddress?_also {a a' : Address} (h : newAddress? gone a = some a') {i : Nat}
    (hi : gone (a ++ [i]) = false) (b : Address) :
    newAddress? (also gone (a ++ [i])) b =
      (newAddress? gone b).bind (Address.shiftAt a' (Address.without (newPosition (under gone a) i))) := by
  induction a generalizing gone a' b with
  | nil =>
    cases h
    exact newAddress?_also_child hi b
  | cons k a ih =>
    rw [newAddress?] at h
    split at h
    · cases h
    · rename_i hk
      replace hk : gone [k] = false := by simpa using hk
      obtain ⟨r, hr, rfl⟩ := Option.map_eq_some_iff.mp h
      cases b with
      | nil => rfl
      | cons j b =>
        have hlong (j : Nat) : ([j] : Address) ≠ k :: a ++ [i] := by simp
        rw [newAddress?, newAddress?, also_of_ne (hlong j)]
        split
        · rfl
        · rename_i hj
          replace hj : gone [j] = false := by simpa using hj
          rw [newPosition_also_of_ne fun l _ => (hlong l).symm, List.cons_append]
          -- An address that begins with another position is not concerned by what moves below this one.
          by_cases hjk : j = k
          · subst hjk
            have hinside := ih hr hi b
            rw [inside_also_self, hinside]
            cases newAddress? (inside gone j) b with
            | none => rfl
            | some b' =>
              show _ = Address.shiftAt ([newPosition gone j] ++ r) _ ([newPosition gone j] ++ b')
              rw [Address.shiftAt_append]
              rfl
          · rw [inside_also_of_ne hjk]
            cases newAddress? (inside gone j) b with
            | none => rfl
            | some b' =>
              have hne := newPosition_ne hj hk hjk
              show some _ = Address.shiftAt (newPosition gone k :: r) _ (newPosition gone j :: b')
              rw [Address.shiftAt_of_below_none]
              cases hbelow : Address.below? (newPosition gone k :: r) (newPosition gone j :: b') with
              | none => rfl
              | some s =>
                rw [Address.below?_eq_some, List.cons_append] at hbelow
                exact absurd (List.cons.inj hbelow).1 hne

/-! ## 5. Nothing missing

The empty set strikes out nothing, which is how every run of removals begins. -/

theorem behind_nothing : behind (fun _ => false) = fun _ => false := by
  funext a
  cases a <;> rfl

mutual

theorem Node.remaining_nothing : ∀ n : Node, n.remaining (fun _ => false) = n
  | .element t k => by
    rw [Node.remaining]
    exact congrArg (Node.element t) (remaining_nothing k)
  | .text value => by simp only [Node.remaining]
  | .comment value => by simp only [Node.remaining]
  | .instruction target data => by simp only [Node.remaining]

theorem remaining_nothing : ∀ c : List Node, remaining (fun _ => false) c = c
  | [] => by rw [remaining]
  | n :: c => by
    rw [remaining, behind_nothing, remaining_nothing c, if_neg Bool.false_ne_true]
    exact congrArg (· :: c) n.remaining_nothing

end

theorem newPosition_nothing (i : Nat) : newPosition (fun _ => false) i = i := by
  induction i with
  | zero => rfl
  | succ i ih => simp [newPosition, ih]

theorem newAddress?_nothing (a : Address) : newAddress? (fun _ => false) a = some a := by
  induction a with
  | nil => rfl
  | cons i a ih =>
    have hinside : newAddress? (inside (fun _ => false) i) a = some a := ih
    simp [newAddress?, hinside, newPosition_nothing]

/-! ## 6. Texts that stand apart

An edit joins the texts before and behind the node that it takes out.  Where that node is itself a text, and texts stand
apart, there are none to join, so the edit is the removal of one node and nothing else.  And as only texts go, no two
texts come together: the next removal finds the same situation. -/

theorem contentAt_of_getElem? {c : List Node} {i : Nat} {n : Node} (h : (c)[i]? = some n) (a : Address) :
    contentAt c (i :: a) = contentAt n.content a := by
  cases a with
  | nil =>
    show (((c)[i]?).map Node.content).getD [] = n.content
    rw [h]
    rfl
  | cons j a =>
    rw [contentAt, contentAt, nodeAt?_cons_cons, h]
    · exact List.cons_ne_nil j a
    · exact List.cons_ne_nil i (j :: a)

theorem updateContent_congr {f g : List Node → List Node} {a : Address} {c : List Node}
    (h : f (contentAt c a) = g (contentAt c a)) : updateContent f a c = updateContent g a c := by
  induction a generalizing c with
  | nil => exact h
  | cons i a ih =>
    rw [updateContent, updateContent]
    refine modify_congr fun n hn => ?_
    cases n with
    | element t k =>
      rw [contentAt_of_getElem? hn] at h
      exact congrArg (Node.element t) (ih h)
    | text value => rfl
    | comment value => rfl
    | instruction target data => rfl

namespace Apart

variable {c : List Node}

theorem contentAt (h : Apart c) (a : Address) : Apart (Xml.contentAt c a) := by
  induction a generalizing c with
  | nil => exact h
  | cons i a ih =>
    cases hn : (c)[i]? with
    | some n =>
      rw [contentAt_of_getElem? hn]
      exact ih (h.content_of_mem (List.mem_of_getElem? hn))
    | none =>
      have hnone : nodeAt? c (i :: a) = none := by
        cases a with
        | nil => exact hn
        | cons j a => rw [nodeAt?_cons_cons, hn]
      rw [Xml.contentAt, hnone]
      · exact .nil
      · exact List.cons_ne_nil i a

/-- What stands before and behind a text is no text. -/
theorem neighbours {l r : List Node} {value : String} (h : Apart (l ++ .text value :: r)) :
    (∀ n ∈ l.getLast?, n.isText = false) ∧ ∀ n ∈ r.head?, n.isText = false := by
  induction l with
  | nil =>
    cases h with
    | text hhead _ => exact ⟨fun n hn => absurd hn (by simp), hhead⟩
  | cons m l ih =>
    obtain ⟨hlast, hhead⟩ := ih h.tail
    refine ⟨fun n hn => ?_, hhead⟩
    cases l with
    | cons m' l => exact hlast n hn
    | nil =>
      cases hn
      cases h with
      | text hfirst _ => exact absurd (hfirst _ rfl) (by simp [Node.isText])
      | element _ _ => rfl
      | comment _ => rfl
      | instruction _ => rfl

/-- A text is taken out of a content without joining others. -/
theorem removeNode_text (h : Apart c) {i : Nat} {value : String} (hi : (c)[i]? = some (.text value)) :
    removeNode c i = c.eraseIdx i ∧ Forest.isBetweenTexts c i = false := by
  obtain ⟨hlt, hget⟩ := List.getElem?_eq_some_iff.mp hi
  obtain ⟨l, r, rfl, rfl⟩ : ∃ l r, c = l ++ .text value :: r ∧ i = l.length :=
    ⟨c.take i, c.drop (i + 1), by rw [← hget, List.getElem_cons_drop, List.take_append_drop], by
      rw [List.length_take, Nat.min_eq_left (Nat.le_of_lt hlt)]⟩
  obtain ⟨hlast, hhead⟩ := h.neighbours
  constructor
  · rw [Fragment.removeNode_concat hlast, List.eraseIdx_append_of_length_le (Nat.le_refl _), Nat.sub_self]
    rfl
  · have hnext : ((l ++ .text value :: r)[l.length + 1]?).any Node.isText = false := by
      rw [List.getElem?_append_right (Nat.le_add_right _ 1), Nat.add_sub_cancel_left, List.getElem?_cons_succ,
        ← List.head?_eq_getElem?]
      cases hr : r.head? with
      | none => rfl
      | some n => exact hhead n hr
    rw [Forest.isBetweenTexts, hnext, Bool.and_false]

end Apart

/-- All nodes at the addresses are texts. -/
def OnlyTexts (gone : Address → Bool) (c : List Node) : Prop :=
  ∀ a, gone a = true → ∃ value, nodeAt? c a = some (.text value)

namespace OnlyTexts

variable {c : List Node}

theorem tail {n : Node} (h : OnlyTexts gone (n :: c)) : OnlyTexts (behind gone) c := by
  intro a ha
  cases a with
  | nil =>
    obtain ⟨value, hvalue⟩ := h [] ha
    cases hvalue
  | cons i a =>
    obtain ⟨value, hvalue⟩ := h ((i + 1) :: a) ha
    refine ⟨value, ?_⟩
    cases a with
    | nil => exact hvalue
    | cons j a => exact hvalue

theorem inside {i : Nat} {n : Node} (h : OnlyTexts gone c) (hi : gone [i] = false) (hn : (c)[i]? = some n) :
    OnlyTexts (Xml.inside gone i) n.content := by
  intro a ha
  have hne : a ≠ [] := by
    rintro rfl
    rw [Xml.inside, hi] at ha
    cases ha
  obtain ⟨value, hvalue⟩ := h (i :: a) ha
  rw [nodeAt?_cons _ _ hne, hn] at hvalue
  exact ⟨value, hvalue⟩

/-- Taking texts out brings no texts together. -/
theorem apart (hc : Apart c) (h : OnlyTexts gone c) : Apart (remaining gone c) := by
  -- What is no text stays, so a node between two texts keeps them apart; and if a text goes, its neighbours are none.
  have hkeeps {n : Node} {c : List Node} {gone : Address → Bool} (hn : n.isText = false)
      (h : OnlyTexts gone (n :: c)) : gone [0] = false := by
    by_contra hgone
    obtain ⟨value, hvalue⟩ := h [0] (by simpa using hgone)
    cases hvalue
    cases hn
  induction hc generalizing gone with
  | nil => simpa [remaining] using .nil
  | element hk _ ihk ih =>
    have hnot := hkeeps rfl h
    rw [remaining, if_neg (by simp [hnot]), Node.remaining]
    exact .element (ihk (h.inside hnot rfl)) (ih h.tail)
  | @text value c hhead hc ih =>
    rw [remaining]
    split
    · exact ih h.tail
    · rw [Node.remaining]
      · refine .text (fun m hm => ?_) (ih h.tail)
        cases c with
        | nil => simp [remaining] at hm
        | cons n c =>
          have hn := hhead n rfl
          rw [remaining, if_neg (by simp [hkeeps hn h.tail])] at hm
          cases hm
          rw [isText_remaining, hn]
      · intro t k heq
        cases heq
  | comment _ ih =>
    have hnot := hkeeps rfl h
    rw [remaining, if_neg (by simp [hnot]), Node.remaining]
    · exact .comment (ih h.tail)
    · intro t k heq
      cases heq
  | instruction _ ih =>
    have hnot := hkeeps rfl h
    rw [remaining, if_neg (by simp [hnot]), Node.remaining]
    · exact .instruction (ih h.tail)
    · intro t k heq
      cases heq

/-- A node that is not taken out itself is still there, since nothing is inside a text. -/
theorem exists_newAddress {a : Address} (h : OnlyTexts gone c) (ha : gone a = false) {n : Node}
    (hn : nodeAt? c a = some n) : ∃ a', newAddress? gone a = some a' := by
  induction a generalizing gone c with
  | nil => exact ⟨[], rfl⟩
  | cons i a ih =>
    have hi : gone [i] = false := by
      by_contra hgone
      obtain ⟨value, hvalue⟩ := h [i] (by simpa using hgone)
      cases a with
      | nil => exact hgone (by simp [ha])
      | cons j a =>
        rw [nodeAt?] at hvalue
        rw [nodeAt?_cons_cons, hvalue] at hn
        cases a <;> cases hn
    rw [newAddress?, if_neg (by simp [hi])]
    cases a with
    | nil => exact ⟨[newPosition gone i], rfl⟩
    | cons j a =>
      rw [nodeAt?_cons _ _ (List.cons_ne_nil j a)] at hn
      obtain ⟨m, hm, hn⟩ := Option.bind_eq_some_iff.mp hn
      obtain ⟨a', ha'⟩ := ih (h.inside hi hm) ha hn
      exact ⟨newPosition gone i :: a', by rw [ha']; rfl⟩

theorem also (h : OnlyTexts gone c) {a : Address} {value : String} (ha : nodeAt? c a = some (.text value)) :
    OnlyTexts (Xml.also gone a) c := by
  intro b hb
  by_cases hba : b = a
  · exact ⟨value, hba ▸ ha⟩
  · rw [also_of_ne hba] at hb
    exact h b hb

end OnlyTexts

end Xml

/-! ## 7. Numbered nodes

Numbers are kept for nodes, not for addresses, so a node that is still there has the same number, and its place is the
one that `newAddress?` gives.  `Lacks` says both things of a forest in one: what its trees are, and where its numbers
lead. -/

/-- Where a node is once some nodes have been taken out of the content at a place. -/
def Place.without (w : Place) (gone : Address → Bool) (q : Place) : Option Place :=
  if q.tree = w.tree then
    match Xml.Address.below? w.address q.address with
    | some a => (Xml.newAddress? gone a).map w.below
    | none => some q
  else some q

namespace Forest

variable {f g : Forest} {w : Place} {gone : Address → Bool}

/-- The second forest is the first without some nodes of the content at a place. -/
structure Lacks (f g : Forest) (w : Place) (gone : Address → Bool) : Prop where
  trees : g.trees = f.trees.modify w.tree fun d => d.update w.address (Xml.remaining gone)
  places : ∀ m, g.place? m = (f.place? m).bind (w.without gone)

theorem without_below (w : Place) (gone : Address → Bool) (a : Address) :
    w.without gone (w.below a) = (Xml.newAddress? gone a).map w.below := by
  rw [Place.without, Place.below, if_pos rfl, Xml.Address.below?_append]

theorem without_outside (gone : Address → Bool) {q : Place} (h : ∀ a, q ≠ w.below a) : w.without gone q = some q := by
  rw [Place.without]
  split
  · rename_i htree
    obtain ⟨tree, address⟩ := q
    obtain rfl : tree = w.tree := htree
    have hnone : Xml.Address.below? w.address address = none := by
      by_contra hsome
      obtain ⟨a, ha⟩ := Option.ne_none_iff_exists'.mp hsome
      exact h a (congrArg (Place.mk w.tree) (Xml.Address.below?_eq_some.mp ha))
    rw [hnone]
  · rfl

/-- What a removal does to the places is what the set of addresses with one more says. -/
theorem without_also {a a' : Address} (h : Xml.newAddress? gone a = some a') {i : Nat}
    (hi : gone (a ++ [i]) = false) (q : Place) :
    ((w.without gone q).bind fun p => if p.tree = w.tree then
      (Xml.Address.shiftAt (w.address ++ a') (Xml.Address.without (Xml.newPosition (Xml.under gone a) i)) p.address).map
        (⟨w.tree, ·⟩) else some p) = w.without (Xml.also gone (a ++ [i])) q := by
  rw [Place.without, Place.without]
  split
  · rename_i htree
    obtain ⟨tree, address⟩ := q
    obtain rfl : tree = w.tree := htree
    cases hbelow : Xml.Address.below? w.address address with
    | some b =>
      dsimp only
      rw [Xml.newAddress?_also h hi]
      cases Xml.newAddress? gone b with
      | none => rfl
      | some b' =>
        dsimp only [Option.map_some, Option.bind_some, Place.below]
        rw [if_pos rfl, Xml.Address.shiftAt_append, Option.map_map]
        rfl
    | none =>
      have hnone : Xml.Address.below? (w.address ++ a') address = none := by
        by_contra hsome
        obtain ⟨b, hb⟩ := Option.ne_none_iff_exists'.mp hsome
        rw [Xml.Address.below?_eq_some, List.append_assoc] at hb
        rw [hb, Xml.Address.below?_append] at hbelow
        cases hbelow
      dsimp only [Option.bind_some]
      rw [if_pos rfl, Xml.Address.shiftAt_of_below_none _ hnone]
      rfl
  · rename_i htree
    rw [Option.bind_some, if_neg htree]

/-- Nothing is missing yet. -/
theorem lacks_nothing (f : Forest) (w : Place) : f.Lacks f w fun _ => false := by
  constructor
  · have hsame : (fun d : Document => d.update w.address (Xml.remaining fun _ => false)) = id := by
      funext d
      rw [funext Xml.remaining_nothing]
      exact d.update_self w.address
    rw [hsame, List.modify_id]
  · intro m
    cases f.place? m with
    | none => rfl
    | some q =>
      rw [Option.bind_some]
      by_cases hbelow : ∃ a, q = w.below a
      · obtain ⟨a, rfl⟩ := hbelow
        rw [without_below, Xml.newAddress?_nothing]
        rfl
      · exact (without_outside _ (not_exists.mp hbelow)).symm

variable {t : Tag} {c : List Node}

/-- The content that is left stands where the whole content stood. -/
theorem Lacks.node (h : f.Lacks g w gone) (hw : f.node? w = some (.element t c)) :
    g.node? w = some (.element t (Xml.remaining gone c)) := by
  have htree : g.tree w = (f.tree w).update w.address (Xml.remaining gone) := by
    rw [tree, h.trees, List.getElem?_modify_eq, tree_of_lt (lt_of_node hw)]
    rfl
  rw [node?, htree]
  exact Xml.Document.node_update hw _

/-- A node that stands in a tree is taken out where it stands. -/
theorem remove_of_place {n i : Nat} {b : Address} (h : g.place? n = some (w.below (b ++ [i]))) :
    g.remove n = .ok (g.takeOut (w.below b) i, w.below b) := by
  have hlast : (w.below (b ++ [i])).address.getLast? = some i := by
    rw [Place.below, ← List.append_assoc]
    exact List.getLast?_concat
  have hparent : (⟨(w.below (b ++ [i])).tree, (w.below (b ++ [i])).address.dropLast⟩ : Place) = w.below b := by
    rw [Place.below, ← List.append_assoc, List.dropLast_concat]
    rfl
  rw [Forest.remove, place_of_some h]
  dsimp only [bind, Except.bind]
  rw [hlast]
  dsimp only
  rw [hparent]
  rfl

/-- **A text that is still there can be taken out**, and no other text is joined or lost. -/
theorem Lacks.remove (h : f.Lacks g w gone) (hw : f.node? w = some (.element t c)) (hc : Xml.Apart c)
    (hgone : Xml.OnlyTexts gone c) {n : Nat} {a : Address} {value : String} (hn : f.place? n = some (w.below a))
    (ha : Xml.nodeAt? c a = some (.text value)) (hnot : gone a = false) :
    ∃ g' p, g.remove n = .ok (g', p) ∧ f.Lacks g' w (Xml.also gone a) := by
  have hne : a ≠ [] := by
    rintro rfl
    rw [Xml.nodeAt?_nil] at ha
    cases ha
  obtain ⟨b, i, rfl⟩ : ∃ b i, a = b ++ [i] := ⟨_, _, (List.dropLast_append_getLast hne).symm⟩
  -- The text has an address now, `b' ++ [i']`, since only texts have gone and it is none of them.
  obtain ⟨a', ha'⟩ := hgone.exists_newAddress hnot ha
  have hunder : Xml.under gone b [i] = false := hnot
  obtain ⟨b', hb', rfl⟩ : ∃ b', Xml.newAddress? gone b = some b' ∧
      a' = b' ++ [Xml.newPosition (Xml.under gone b) i] := by
    rw [Xml.newAddress?_append] at ha'
    obtain ⟨b', hb', hi⟩ := Option.bind_eq_some_iff.mp ha'
    rw [Xml.newAddress?, if_neg (by simp [hunder])] at hi
    cases hi
    exact ⟨b', hb', rfl⟩
  let i' := Xml.newPosition (Xml.under gone b) i
  -- The content that the text stands in, as it is now.
  let k := Xml.remaining (Xml.under gone b) (Xml.contentAt c b)
  have hplace : g.place? n = some (w.below (b' ++ [i'])) := by
    rw [h.places, hn, Option.bind_some, without_below, ha']
    rfl
  have hk : k = Xml.contentAt (Xml.remaining gone c) b' := (Xml.contentAt_remaining hb' c).symm
  have hapart : Xml.Apart k := hk ▸ (hgone.apart hc).contentAt b'
  have hchild : k[i']? = some (.text value) := by
    rw [Xml.getElem?_remaining hunder, ← Xml.nodeAt?_contentAt, ha]
    simp only [Option.map_some, Node.remaining]
  -- No text stands beside it, so there is nothing to join and the text is all that goes.
  obtain ⟨herase, hbetween⟩ := hapart.removeNode_text hchild
  have hchildren : (g.tree (w.below b')).children (w.below b').address = k := by
    rw [hk]
    exact Xml.Document.children_append (h.node hw) b'
  have hjoined : g.joinAround (w.below b') i' = g := by
    rw [joinAround, hchildren, hbetween]
    rfl
  refine ⟨g.takeOut (w.below b') i', w.below b', remove_of_place hplace, ?_, ?_⟩
  · rw [takeOut, hjoined]
    show g.trees.modify w.tree (fun d => d.update (w.address ++ b') (Xml.removeNode · i')) = _
    have hcontent : Xml.updateContent (Xml.removeNode · i') b' (Xml.remaining gone c) =
        Xml.remaining (Xml.also gone (b ++ [i])) c := by
      rw [← Xml.remaining_also hb' hnot]
      exact Xml.updateContent_congr (by rw [← hk]; exact herase)
    have htwice (d : Document) :
        (d.update w.address (Xml.remaining gone)).update (w.address ++ b') (Xml.removeNode · i') =
        d.update w.address fun k => Xml.updateContent (Xml.removeNode · i') b' (Xml.remaining gone k) :=
      (congrArg Document.mk (Xml.updateContent_append _ _ _ _)).trans (Xml.Document.update_update _ _)
    rw [h.trees, List.modify_modify_eq]
    simp only [Function.comp_def, htwice]
    exact trees_congr hw hcontent
  · intro m
    rw [takeOut, hjoined]
    show (g.relocate w.tree _).place? m = _
    rw [place_relocate, h.places]
    cases f.place? m with
    | none => rfl
    | some q => exact without_also hb' hnot q

/-- **Texts are taken out in any order.**  None of them is lost before its turn comes, and nothing else goes. -/
theorem Lacks.removeAll (h : f.Lacks g w gone) (hw : f.node? w = some (.element t c)) (hc : Xml.Apart c)
    (hgone : Xml.OnlyTexts gone c) {ns : List Nat} {as : List Address}
    (hns : List.Forall₂ (fun n a => f.place? n = some (w.below a)) ns as) (hdistinct : as.Nodup)
    (has : ∀ a ∈ as, gone a = false ∧ ∃ value, Xml.nodeAt? c a = some (.text value)) :
    ∃ g', g.removeAll ns = .ok g' ∧ f.Lacks g' w fun a => gone a || as.contains a := by
  induction hns generalizing g gone with
  | nil => exact ⟨g, rfl, by simpa using h⟩
  | @cons n a ns as hn _ ih =>
    obtain ⟨hnot, hdistinct⟩ := List.nodup_cons.mp hdistinct
    obtain ⟨⟨hleft, value, hvalue⟩, has⟩ := List.forall_mem_cons.mp has
    obtain ⟨g₁, p, hremove, hlacks⟩ := h.remove hw hc hgone hn hvalue hleft
    have hrest : ∀ b ∈ as, Xml.also gone a b = false ∧ ∃ value, Xml.nodeAt? c b = some (.text value) := by
      intro b hb
      have hne : b ≠ a := by
        rintro rfl
        exact hnot hb
      rw [Xml.also_of_ne hne]
      exact has b hb
    obtain ⟨g', hrest, hlacks'⟩ := ih hlacks (hgone.also hvalue) hdistinct hrest
    refine ⟨g', ?_, ?_⟩
    · rw [Forest.removeAll, hremove]
      exact hrest
    · convert hlacks' using 2 with b
      rw [Xml.also, Bool.or_assoc, List.contains_cons]

end Forest

end Regraft
