import Mathlib.Data.List.Basic
import Regraft.Proofs.TextsApart
import Regraft.Xml.Layout
/-!
# What it takes for a document to be written

A name is written with a prefix that is declared for its namespace where it stands.  `Node.Declared` says
that there is one for every name of a node, and `write_isSome_iff` that nothing else can go wrong: in every
style a document can be written exactly if all its names are declared.

Properties of trees that depend on what the tags around a tag say are all of one form, `Node.Throughout`.
Adding nodes to a content, taking nodes out of it and setting its text keep them all.
-/

namespace Regraft.Xml

/-! ## 1. Properties of all tags

Two properties of trees differ in what they ask of a tag and in what a tag hands down.  With both as parameters there is
one induction for all of them. -/

/-- The property holds of every tag of a node in the scope inside it; `enter` tells what becomes of the scope
around a tag.  Nodes without a tag have nothing to say. -/
inductive Node.Throughout {σ : Type} (enter : σ → Tag → σ) (P : σ → Tag → Prop) : σ → Node → Prop
  | element {s : σ} {t : Tag} {content : List Node} (h : P (enter s t) t)
      (hcontent : ∀ n ∈ content, n.Throughout enter P (enter s t)) : Throughout enter P s (.element t content)
  | text {s : σ} (value : String) : Throughout enter P s (.text value)
  | comment {s : σ} (value : String) : Throughout enter P s (.comment value)
  | instruction {s : σ} (target : String) (data : Option String) : Throughout enter P s (.instruction target data)

section Throughout

variable {σ : Type} {enter : σ → Tag → σ} {P : σ → Tag → Prop}

theorem throughout_element {s : σ} {t : Tag} {content : List Node} :
    (Node.element t content).Throughout enter P s ↔
      P (enter s t) t ∧ ∀ n ∈ content, n.Throughout enter P (enter s t) :=
  ⟨fun h => by cases h with | element h hcontent => exact ⟨h, hcontent⟩, fun h => .element h.1 h.2⟩

variable [∀ s t, Decidable (P s t)]

mutual

/-- The tags of a node can be checked one by one. -/
def Node.decideThroughout : (s : σ) → (n : Node) → Decidable (n.Throughout enter P s)
  | s, .element t content =>
    have := decideContent (enter s t) content
    decidable_of_iff _ throughout_element.symm
  | _, .text value => isTrue (.text value)
  | _, .comment value => isTrue (.comment value)
  | _, .instruction target data => isTrue (.instruction target data)

/-- The tags of a content can be checked one by one. -/
def decideContent : (s : σ) → (content : List Node) → Decidable (∀ n ∈ content, n.Throughout enter P s)
  | _, [] => isTrue fun _ hn => absurd hn List.not_mem_nil
  | s, n :: rest =>
    have := n.decideThroughout s
    have := decideContent s rest
    decidable_of_iff (n.Throughout enter P s ∧ ∀ m ∈ rest, m.Throughout enter P s) List.forall_mem_cons.symm

end

instance (s : σ) (n : Node) : Decidable (n.Throughout enter P s) := n.decideThroughout s

end Throughout

/-! ## 2. Names that are declared

A name is declared if writing finds a prefix for it.  An element may use the default namespace, an attribute needs a
prefix of its own. -/

/-- The namespace of an element is declared. -/
def Scope.DeclaresElement (s : Scope) (n : QName) : Prop := n.uri = "" ∨ ∃ d ∈ s, d.uri = n.uri

/-- The namespace of an attribute is declared, with a prefix that is not empty. -/
def Scope.DeclaresAttribute (s : Scope) (n : QName) : Prop :=
  n.uri = "" ∨ ∃ d ∈ s, d.namespacePrefix ≠ "" ∧ d.uri = n.uri

/-- The namespaces of all names in a tag are declared. -/
def Scope.Declares (s : Scope) (t : Tag) : Prop :=
  s.DeclaresElement t.name ∧ ∀ a ∈ t.attributes, s.DeclaresAttribute a.name

instance (s : Scope) (n : QName) : Decidable (s.DeclaresElement n) :=
  inferInstanceAs (Decidable (n.uri = "" ∨ ∃ d ∈ s, d.uri = n.uri))

instance (s : Scope) (n : QName) : Decidable (s.DeclaresAttribute n) :=
  inferInstanceAs (Decidable (n.uri = "" ∨ ∃ d ∈ s, d.namespacePrefix ≠ "" ∧ d.uri = n.uri))

instance (s : Scope) (t : Tag) : Decidable (s.Declares t) :=
  inferInstanceAs (Decidable (s.DeclaresElement t.name ∧ ∀ a ∈ t.attributes, s.DeclaresAttribute a.name))

/-- The namespaces of all names in a node are declared where they stand. -/
abbrev Node.Declared : Scope → Node → Prop := Throughout (fun s t => s.extend t.declarations) Scope.Declares

theorem writeElementName_isSome {s : Scope} {n : QName} : (s.writeElementName n).isSome ↔ s.DeclaresElement n := by
  rw [Scope.writeElementName, Scope.DeclaresElement]
  split
  · rename_i h
    have hdeclared : n.uri = "" ∨ ∃ d ∈ s, d.uri = n.uri := by
      rcases Bool.or_eq_true_iff.mp h with h | h
      · exact .inl (String.isEmpty_iff.mp h)
      · exact .inr ⟨_, List.contains_iff_mem.mp h, rfl⟩
    simp [hdeclared]
  · rename_i h
    have hne : n.uri ≠ "" := fun huri => h (by simp [huri])
    simp [hne]

theorem writeAttributeName_isSome {s : Scope} {n : QName} :
    (s.writeAttributeName n).isSome ↔ s.DeclaresAttribute n := by
  rw [Scope.writeAttributeName, Scope.DeclaresAttribute]
  split
  · rename_i h
    simp [String.isEmpty_iff.mp h]
  · rename_i h
    have hne : n.uri ≠ "" := fun huri => h (by simp [huri])
    simp [hne]

theorem mapM_isSome {α β : Type} {f : α → Option β} {as : List α} :
    (as.mapM f).isSome ↔ ∀ a ∈ as, (f a).isSome := by
  induction as with
  | nil => simp
  | cons a as ih =>
    rw [List.mapM_cons, List.forall_mem_cons, ← ih]
    cases f a with
    | none => simp
    | some b => cases as.mapM f <;> simp

/-- A tag can be written exactly if its names are declared. -/
theorem writeTag_isSome {s : Scope} {inherited : List Declaration} {t : Tag} :
    (writeTag s inherited t).isSome ↔ s.Declares t := by
  have hattributes : (t.attributes.mapM (writeAttribute s)).isSome ↔
      ∀ a ∈ t.attributes, s.DeclaresAttribute a.name := by
    rw [mapM_isSome]
    simp only [writeAttribute, Option.isSome_map, writeAttributeName_isSome]
  rw [Scope.Declares, ← hattributes, ← writeElementName_isSome, writeTag]
  cases s.writeElementName t.name with
  | none => simp
  | some name => cases t.attributes.mapM (writeAttribute s) <;> simp

/-! ## 3. Trees

Writing fails for one reason only, which is a name that is not declared. -/

mutual

/-- A node can be written exactly if its names are declared. -/
theorem pieces_isSome : ∀ (s : Scope) (inherited : List Declaration) (n : Node),
    (n.pieces s inherited).isSome ↔ n.Declared s
  | s, inherited, .element tag content => by
    have htag : (writeTag (s.extend tag.declarations) inherited tag).isSome ↔ _ := writeTag_isSome
    have hcontent := contentPieces_isSome (s.extend tag.declarations) content
    have hdeclared : (Node.element tag content).Declared s ↔ (s.extend tag.declarations).Declares tag ∧
        ∀ n ∈ content, n.Declared (s.extend tag.declarations) := throughout_element
    rw [hdeclared, ← htag, ← hcontent, Node.pieces]
    cases writeTag (s.extend tag.declarations) inherited tag with
    | none => simp
    | some written =>
      cases content with
      | nil => simp [contentPieces]
      | cons n rest => cases contentPieces (s.extend tag.declarations) (n :: rest) <;> simp
  | s, _, .text value => by simp [Node.pieces, Node.Throughout.text value]
  | s, _, .comment value => by simp [Node.pieces, Node.Throughout.comment value]
  | s, _, .instruction target data => by simp [Node.pieces, Node.Throughout.instruction target data]

theorem contentPieces_isSome : ∀ (s : Scope) (content : List Node),
    (contentPieces s content).isSome ↔ ∀ n ∈ content, n.Declared s
  | s, [] => by simp [contentPieces]
  | s, n :: rest => by
    rw [List.forall_mem_cons, ← pieces_isSome s [] n, ← contentPieces_isSome s rest, contentPieces]
    cases n.pieces s [] with
    | none => simp
    | some here => cases contentPieces s rest <;> simp

end

/-- **A document can be written, in any style, exactly if all its names are declared.** -/
theorem exists_write_iff (style : Style) (d : Document) :
    (∃ text, d.write style = .ok text) ↔ ∀ n ∈ d.content, n.Declared Scope.written := by
  rw [← contentPieces_isSome, Document.write]
  cases contentPieces Scope.written d.content with
  | none => simp
  | some pieces => simp

/-! ## 4. Changes of contents

A property of all tags does not care about texts, so joining texts keeps it, and so does every change that only moves
nodes. -/

section Throughout

variable {σ : Type} {enter : σ → Tag → σ} {P : σ → Tag → Prop}

theorem Node.Throughout.of_isText {n : Node} (h : n.isText = true) (s : σ) : n.Throughout enter P s := by
  cases n with
  | text value => exact .text value
  | element _ _ => cases h
  | comment _ => cases h
  | instruction _ _ => cases h

theorem mem_joinNodes {m n k : Node} (h : k ∈ joinNodes m n) : k = m ∨ k = n ∨ k.isText = true := by
  rw [joinNodes.eq_def] at h
  split at h
  · obtain rfl := List.mem_singleton.mp h
    exact .inr (.inr rfl)
  · rcases List.mem_cons.mp h with h | h
    · exact .inl h
    · exact .inr (.inl (List.mem_singleton.mp h))

/-- Adding a node makes no other nodes, but for texts that are joined. -/
theorem mem_appendNode {n k : Node} : ∀ {c : List Node}, k ∈ appendNode c n → k ∈ c ∨ k = n ∨ k.isText = true
  | [], h => .inr (.inl (List.mem_singleton.mp h))
  | [m], h => (mem_joinNodes h).imp_left fun hk => List.mem_singleton.mpr hk
  | m :: m' :: rest, h => by
    rw [appendNode] at h
    rcases List.mem_cons.mp h with rfl | h
    · exact .inl List.mem_cons_self
    · exact (mem_appendNode h).imp_left (List.mem_cons_of_mem _)

theorem throughout_appendNodes {s : σ} {c nodes : List Node} (hc : ∀ n ∈ c, n.Throughout enter P s)
    (hnodes : ∀ n ∈ nodes, n.Throughout enter P s) : ∀ n ∈ appendNodes c nodes, n.Throughout enter P s := by
  induction nodes generalizing c with
  | nil => exact hc
  | cons m nodes ih =>
    obtain ⟨hm, hnodes⟩ := List.forall_mem_cons.mp hnodes
    refine ih (fun n hn => ?_) hnodes
    rcases mem_appendNode hn with hn | rfl | hn
    · exact hc n hn
    · exact hm
    · exact .of_isText hn s

theorem throughout_setLeadingText {s : σ} {c : List Node} (hc : ∀ n ∈ c, n.Throughout enter P s) (value : String) :
    ∀ n ∈ setLeadingText value c, n.Throughout enter P s :=
  forall_mem_setLeadingText hc (.text value) fun other _ => .text (value ++ other)

theorem throughout_removeNode {s : σ} {c : List Node} (hc : ∀ n ∈ c, n.Throughout enter P s) (i : Nat) :
    ∀ n ∈ removeNode c i, n.Throughout enter P s := by
  rw [removeNode]
  split
  · exact fun n hn => hc n (List.mem_of_mem_take hn)
  · rename_i m rest hdrop
    have hafter : ∀ n ∈ m :: rest, n.Throughout enter P s := fun n hn =>
      hc n (List.mem_of_mem_drop (hdrop ▸ hn))
    intro n hn
    rcases List.mem_append.mp hn with hn | hn
    · rcases mem_appendNode hn with hn | rfl | hn
      · exact hc n (List.mem_of_mem_take hn)
      · exact hafter _ List.mem_cons_self
      · exact .of_isText hn s
    · exact hafter n (List.mem_cons_of_mem _ hn)

/-- What a change of a content keeps in every scope, it keeps where it is made further down. -/
theorem throughout_updateContent {f : List Node → List Node}
    (hf : ∀ (s : σ) (c : List Node), (∀ n ∈ c, n.Throughout enter P s) → ∀ n ∈ f c, n.Throughout enter P s)
    (a : Address) {s : σ} {content : List Node} (h : ∀ n ∈ content, n.Throughout enter P s) :
    ∀ n ∈ updateContent f a content, n.Throughout enter P s := by
  induction a generalizing s content with
  | nil => exact hf s content h
  | cons i a ih =>
    rw [updateContent, List.modify_eq_set_getElem?]
    cases hi : content[i]? with
    | none => exact h
    | some m =>
      intro n hn
      have hm : m.Throughout enter P s := h m (List.mem_of_getElem? hi)
      rcases List.mem_or_eq_of_mem_set hn with hn | rfl
      · exact h n hn
      · cases hm with
        | element h hcontent => exact .element h (ih hcontent)
        | text value => exact .text value
        | comment value => exact .comment value
        | instruction target data => exact .instruction target data

end Throughout

end Regraft.Xml
