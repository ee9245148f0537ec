import Mathlib.Data.List.Chain
import Regraft.Xml.Node
/-!
# Contents in which texts stand apart

Nodes are put into a content by steps that join a text to its neighbours.  Replacing the text that begins a content is
three such steps: what text is there is taken out, the content is looked at again, and the new text is put before the
node that is first then, or at the end.  So what comes of it depends on what stands behind the text that was there.

* `setLeadingText_eq`: the three steps are a text put before the nodes that are left, whatever these are.  Nothing is
  lost: a text that these begin with becomes a part of the new one (`prependNode_text`).
* `TextsApart`: no two texts stand side by side.  Then the nodes that are left begin with none
  (`TextsApart.isText_head`), nothing is joined, and the steps come to what one expects of them
  (`TextsApart.setLeadingText_eq`).
* From this follow the laws of a field: what is set is read (`leadingText_setLeadingText`), the last of two texts stays
  (`setLeadingText_twice`), and what is read may be set again (`setLeadingText_leadingText`).

`Apart` says the same of all that is inside a content as well.  Every step keeps it: nodes put at the end
(`Apart.appendNodes`) and a text set in front (`Apart.setLeadingText`).

Where two texts do stand side by side the laws fail, as `joined_when_set` shows.  The contents that a program reads or
builds are not among these.
-/

namespace Regraft.Xml

/-! ## 1. A text put before other nodes -/

/-- The nodes of a content but for the text that begins it. -/
def otherNodes : List Node → List Node
  | .text _ :: rest => rest
  | c => c

/-- No two texts stand side by side in a content. -/
def TextsApart (c : List Node) : Prop := c.IsChain fun m n => m.isText = false ∨ n.isText = false

instance (c : List Node) : Decidable (TextsApart c) :=
  inferInstanceAs (Decidable (c.IsChain fun m n => m.isText = false ∨ n.isText = false))

/-- The number of nodes before the others: one if a text begins the content. -/
def textsBefore (c : List Node) : Nat := if c.head?.any Node.isText then 1 else 0

theorem appendNode_concat (m n : Node) : ∀ c : List Node, appendNode (c ++ [m]) n = c ++ joinNodes m n
  | [] => rfl
  | [_] => rfl
  | a :: b :: c => congrArg (a :: ·) (appendNode_concat m n (b :: c))

variable {c : List Node}

/-- A content begins with a text, or all its nodes are others. -/
theorem begins_or (c : List Node) :
    (∃ value, c = .text value :: otherNodes c) ∨ otherNodes c = c ∧ ∀ n ∈ c.head?, n.isText = false := by
  cases c with
  | nil => exact .inr ⟨rfl, by simp⟩
  | cons n c =>
    cases n with
    | text value => exact .inl ⟨value, rfl⟩
    | element t k => exact .inr ⟨rfl, by simp [Node.isText]⟩
    | comment value => exact .inr ⟨rfl, by simp [Node.isText]⟩
    | instruction target data => exact .inr ⟨rfl, by simp [Node.isText]⟩

theorem otherNodes_suffix (c : List Node) : otherNodes c <:+ c := by
  rcases begins_or c with ⟨value, heq⟩ | ⟨heq, -⟩
  · exact ⟨[.text value], heq.symm⟩
  · exact ⟨[], heq⟩

theorem otherNodes_subset (c : List Node) : otherNodes c ⊆ c := (otherNodes_suffix c).subset

theorem otherNodes_of_head (h : ∀ n ∈ c.head?, n.isText = false) : otherNodes c = c := by
  rcases begins_or c with ⟨value, heq⟩ | ⟨heq, -⟩
  · rw [heq] at h
    exact absurd (h _ rfl) (by simp [Node.isText])
  · exact heq

theorem leadingText_of_head (h : ∀ n ∈ c.head?, n.isText = false) : Node.leadingText c = none := by
  cases c with
  | nil => rfl
  | cons n c =>
    cases n with
    | text value => exact absurd (h _ rfl) (by simp [Node.isText])
    | element t k => rfl
    | comment value => rfl
    | instruction target data => rfl

theorem textsBefore_of_head (h : ∀ n ∈ c.head?, n.isText = false) : textsBefore c = 0 := by
  rw [textsBefore, if_neg]
  cases hhead : c.head? with
  | none => simp
  | some n => simp [h n hhead]

theorem getElem?_otherNodes (c : List Node) (i : Nat) : (otherNodes c)[i]? = (c)[textsBefore c + i]? := by
  rcases begins_or c with ⟨value, heq⟩ | ⟨heq, hhead⟩
  · rw [heq]
    show (otherNodes c)[i]? = (.text value :: otherNodes c)[1 + i]?
    rw [Nat.add_comm, List.getElem?_cons_succ]
  · rw [heq, textsBefore_of_head hhead, Nat.zero_add]

/-- A text put before a content takes in the text that the content begins with. -/
theorem prependNode_text (value : String) (c : List Node) :
    prependNode (.text value) c = .text (value ++ (Node.leadingText c).getD "") :: otherNodes c := by
  cases c with
  | nil => simp [prependNode, Node.leadingText, otherNodes]
  | cons n c =>
    cases n with
    | text other => rfl
    | element t k => simp [prependNode, joinNodes, Node.leadingText, otherNodes]
    | comment other => simp [prependNode, joinNodes, Node.leadingText, otherNodes]
    | instruction target data => simp [prependNode, joinNodes, Node.leadingText, otherNodes]

/-- Taking out a text that is first leaves the others. -/
theorem removeNode_text (value : String) (c : List Node) : removeNode (.text value :: c) 0 = c := by
  cases c with
  | nil => rfl
  | cons n c => rfl

/-- **The three steps are one text put before the other nodes**, whatever these are. -/
theorem setLeadingText_eq (value : String) (c : List Node) :
    setLeadingText value c =
      if value.isEmpty then otherNodes c else prependNode (.text value) (otherNodes c) := by
  have hcleared : (if c.head?.any Node.isText then removeNode c 0 else c) = otherNodes c := by
    cases c with
    | nil => rfl
    | cons n c =>
      cases n with
      | text other => exact removeNode_text other c
      | element t k => rfl
      | comment other => rfl
      | instruction target data => rfl
  rw [setLeadingText, hcleared]
  cases otherNodes c with
  | nil => rfl
  | cons n rest => rfl

/-- What remains after the empty text. -/
theorem setLeadingText_of_isEmpty {value : String} (h : value.isEmpty = true) (c : List Node) :
    setLeadingText value c = otherNodes c := by
  rw [setLeadingText_eq, if_pos h]

/-- Any other text comes before what is left, less a text that this begins with. -/
theorem setLeadingText_of_not_isEmpty {value : String} (h : value.isEmpty = false) (c : List Node) :
    setLeadingText value c =
      .text (value ++ (Node.leadingText (otherNodes c)).getD "") :: otherNodes (otherNodes c) := by
  rw [setLeadingText_eq, if_neg (by simp [h]), prependNode_text]

/-- What holds of the nodes of a content and of every text put before them holds of the nodes afterwards. -/
theorem forall_mem_setLeadingText {P : Node → Prop} (hc : ∀ n ∈ c, P n) {value : String}
    (hvalue : P (.text value)) (hjoin : ∀ other, P (.text other) → P (.text (value ++ other))) :
    ∀ n ∈ setLeadingText value c, P n := by
  have hothers : ∀ n ∈ otherNodes c, P n := fun n hn => hc n (otherNodes_subset c hn)
  cases hempty : value.isEmpty with
  | true =>
    rw [setLeadingText_of_isEmpty hempty]
    exact hothers
  | false =>
    rw [setLeadingText_of_not_isEmpty hempty]
    refine List.forall_mem_cons.mpr ⟨?_, fun n hn => hothers n (otherNodes_subset _ hn)⟩
    rcases begins_or (otherNodes c) with ⟨other, heq⟩ | ⟨-, hhead⟩
    · rw [heq] at hothers ⊢
      exact hjoin other (hothers _ List.mem_cons_self)
    · rw [leadingText_of_head hhead]
      simpa using hvalue

/-! ## 2. Texts that stand apart -/

namespace TextsApart

theorem otherNodes (h : TextsApart c) : TextsApart (otherNodes c) := by
  rcases begins_or c with ⟨value, heq⟩ | ⟨heq, -⟩
  · rw [heq] at h
    exact h.tail
  · rw [heq]
    exact h

/-- The others do not begin with a text. -/
theorem isText_head (h : TextsApart c) : ∀ n ∈ (Xml.otherNodes c).head?, n.isText = false := by
  rcases begins_or c with ⟨value, heq⟩ | ⟨heq, hhead⟩
  · intro n hn
    rw [heq] at h
    exact ((List.isChain_cons.mp h).1 n hn).resolve_left (by simp [Node.isText])
  · rw [heq]
    exact hhead

/-- **Nothing is joined where texts stand apart**: the new text has a node of its own. -/
theorem setLeadingText_eq (h : TextsApart c) (value : String) :
    Xml.setLeadingText value c =
      if value.isEmpty then Xml.otherNodes c else .text value :: Xml.otherNodes c := by
  rw [Xml.setLeadingText_eq, prependNode_text, leadingText_of_head h.isText_head, otherNodes_of_head h.isText_head]
  simp

theorem setLeadingText (h : TextsApart c) (value : String) : TextsApart (setLeadingText value c) := by
  rw [h.setLeadingText_eq]
  split
  · exact h.otherNodes
  · exact List.isChain_cons.mpr ⟨fun n hn => .inr (h.isText_head n hn), h.otherNodes⟩

/-- It depends on nothing but which nodes are texts. -/
theorem congr {c' : List Node} (h : TextsApart c) (heq : c'.map Node.isText = c.map Node.isText) : TextsApart c' := by
  have hmap := (List.isChain_map Node.isText (R := fun a b => a = false ∨ b = false)).mpr h
  rw [← heq] at hmap
  exact (List.isChain_map Node.isText).mp hmap

end TextsApart

/-! ## 3. The laws of a field -/

/-- **What has been set is read.** -/
theorem leadingText_setLeadingText (h : TextsApart c) (value : String) :
    Node.leadingText (setLeadingText value c) = if value.isEmpty then none else some value := by
  rw [h.setLeadingText_eq]
  split
  · exact leadingText_of_head h.isText_head
  · rfl

theorem otherNodes_setLeadingText (h : TextsApart c) (value : String) :
    otherNodes (setLeadingText value c) = otherNodes c := by
  rw [h.setLeadingText_eq]
  split
  · exact otherNodes_of_head h.isText_head
  · rfl

theorem textsBefore_setLeadingText (h : TextsApart c) (value : String) :
    textsBefore (setLeadingText value c) = if value.isEmpty then 0 else 1 := by
  rw [h.setLeadingText_eq]
  split
  · exact textsBefore_of_head h.isText_head
  · rfl

/-- **The last of two texts stays.** -/
theorem setLeadingText_twice (h : TextsApart c) (s value : String) :
    setLeadingText value (setLeadingText s c) = setLeadingText value c := by
  rw [(h.setLeadingText s).setLeadingText_eq, h.setLeadingText_eq value, otherNodes_setLeadingText h]

/-- **Setting what is read changes nothing**, unless an empty text begins the content. -/
theorem setLeadingText_leadingText (h : TextsApart c) :
    setLeadingText ((Node.leadingText c).getD "") c = if Node.leadingText c = some "" then otherNodes c else c := by
  rw [h.setLeadingText_eq]
  rcases begins_or c with ⟨value, heq⟩ | ⟨heq, hhead⟩
  · have hread : Node.leadingText c = some value := by rw [heq]; rfl
    rw [hread, Option.getD_some, ← heq]
    simp
  · rw [leadingText_of_head hhead, heq]
    rfl

/-- Behind a text that is replaced another one is taken in, so what is read is not what was set. -/
theorem joined_when_set (a b value : String) (h : value.isEmpty = false) :
    Node.leadingText (setLeadingText value [.text a, .text b]) = some (value ++ b) := by
  rw [setLeadingText_of_not_isEmpty h]
  rfl

/-! ## 4. Texts that stand apart at any depth -/

/-- No two texts stand side by side, in a content or further down. -/
inductive Apart : List Node → Prop where
  | nil : Apart []
  | element {t : Tag} {k c : List Node} : Apart k → Apart c → Apart (.element t k :: c)
  | text {value : String} {c : List Node} : (∀ n ∈ c.head?, n.isText = false) → Apart c → Apart (.text value :: c)
  | comment {value : String} {c : List Node} : Apart c → Apart (.comment value :: c)
  | instruction {target : String} {data : Option String} {c : List Node} : Apart c →
      Apart (.instruction target data :: c)

namespace Apart

theorem tail {n : Node} {c : List Node} (h : Apart (n :: c)) : Apart c := by
  cases h with
  | element _ h => exact h
  | text _ h => exact h
  | comment h => exact h
  | instruction h => exact h

theorem joinNodes {m n : Node} (hm : Apart [m]) (hn : Apart [n]) : Apart (Xml.joinNodes m n) := by
  cases hm with
  | element hk _ => exact .element hk hn
  | text _ _ =>
    cases hn with
    | text _ _ => exact .text (by simp) .nil
    | element hk _ => exact .text (by simp [Node.isText]) (.element hk .nil)
    | comment _ => exact .text (by simp [Node.isText]) (.comment .nil)
    | instruction _ => exact .text (by simp [Node.isText]) (.instruction .nil)
  | comment _ => exact .comment hn
  | instruction _ => exact .instruction hn

theorem head_joinNodes (m n : Node) : ∀ k ∈ (Xml.joinNodes m n).head?, k.isText = m.isText := by
  intro k hk
  rw [Xml.joinNodes.eq_def] at hk
  split at hk
  · cases hk
    rfl
  · cases hk
    rfl

theorem appendNode {c : List Node} {n : Node} (hc : Apart c) (hn : Apart [n]) : Apart (Xml.appendNode c n) := by
  induction c with
  | nil => exact hn
  | cons m c ih =>
    cases c with
    | nil => exact hc.joinNodes hn
    | cons m' c =>
      have hrest := ih hc.tail
      have hhead : ∀ k ∈ (Xml.appendNode (m' :: c) n).head?, k.isText = m'.isText := by
        cases c with
        | nil => exact head_joinNodes m' n
        | cons m'' c =>
          intro k hk
          cases hk
          rfl
      rw [Xml.appendNode]
      cases hc with
      | element hk _ => exact .element hk hrest
      | text hfirst _ => exact .text (fun k hk => (hhead k hk).trans (hfirst m' rfl)) hrest
      | comment _ => exact .comment hrest
      | instruction _ => exact .instruction hrest

theorem appendNodes {c ns : List Node} (hc : Apart c) (hns : ∀ n ∈ ns, Apart [n]) : Apart (Xml.appendNodes c ns) := by
  induction ns generalizing c with
  | nil => exact hc
  | cons n ns ih =>
    exact ih (hc.appendNode (hns n List.mem_cons_self)) fun m hm => hns m (List.mem_cons_of_mem _ hm)

theorem content_of_mem (h : Apart c) {n : Node} (hn : n ∈ c) : Apart n.content := by
  induction h with
  | nil => exact absurd hn List.not_mem_nil
  | element hk _ _ ih =>
    rcases List.mem_cons.mp hn with rfl | hn
    · exact hk
    · exact ih hn
  | text _ _ ih =>
    rcases List.mem_cons.mp hn with rfl | hn
    · exact .nil
    · exact ih hn
  | comment _ ih =>
    rcases List.mem_cons.mp hn with rfl | hn
    · exact .nil
    · exact ih hn
  | instruction _ ih =>
    rcases List.mem_cons.mp hn with rfl | hn
    · exact .nil
    · exact ih hn

theorem textsApart (h : Apart c) : TextsApart c := by
  induction h with
  | nil => exact .nil
  | element _ _ _ ih => exact List.isChain_cons.mpr ⟨fun n _ => .inl rfl, ih⟩
  | text hhead _ ih => exact List.isChain_cons.mpr ⟨fun n hn => .inr (hhead n hn), ih⟩
  | comment _ ih => exact List.isChain_cons.mpr ⟨fun n _ => .inl rfl, ih⟩
  | instruction _ ih => exact List.isChain_cons.mpr ⟨fun n _ => .inl rfl, ih⟩

end Apart

/-- Texts stand apart at any depth if they do in the content and in that of each of its nodes. -/
theorem apart_iff : Apart c ↔ TextsApart c ∧ ∀ n ∈ c, Apart n.content := by
  refine ⟨fun h => ⟨h.textsApart, fun n hn => h.content_of_mem hn⟩, ?_⟩
  rintro ⟨hc, hinside⟩
  induction c with
  | nil => exact .nil
  | cons n c ih =>
    obtain ⟨hhead, htail⟩ := List.isChain_cons.mp hc
    obtain ⟨hn, hinside⟩ := List.forall_mem_cons.mp hinside
    have hrest := ih htail hinside
    cases n with
    | element t k => exact .element hn hrest
    | text value => exact .text (fun m hm => (hhead m hm).resolve_left (by simp [Node.isText])) hrest
    | comment value => exact .comment hrest
    | instruction target data => exact .instruction hrest

namespace Apart

theorem reverse (h : Apart c) : Apart c.reverse := by
  obtain ⟨hc, hinside⟩ := apart_iff.mp h
  refine apart_iff.mpr ⟨List.isChain_reverse.mpr (hc.imp fun m n hmn => hmn.symm), fun n hn => ?_⟩
  exact hinside n (List.mem_reverse.mp hn)

theorem singleton_of_mem (h : Apart c) {n : Node} (hn : n ∈ c) : Apart [n] :=
  apart_iff.mpr ⟨List.isChain_singleton n, List.forall_mem_singleton.mpr (h.content_of_mem hn)⟩

theorem setLeadingText (h : Apart c) (value : String) : Apart (setLeadingText value c) := by
  obtain ⟨hc, hinside⟩ := apart_iff.mp h
  refine apart_iff.mpr ⟨hc.setLeadingText value, ?_⟩
  exact forall_mem_setLeadingText hinside .nil fun _ _ => .nil

end Apart

end Regraft.Xml
