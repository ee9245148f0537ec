import Regraft.Proofs.Reach
/-!
# Steps lead downwards in document order

Addresses are ordered as lists of positions, which is the order of nodes in a document.  All nodes that a step leads to
from one node are equally far below it, so what it leads to from nodes of one depth, each of which comes before the
next, are again such nodes (`ordered_of_mapM`).  That holds for every step but those to the parent, where two children
lead to the same node.

Being of one depth is the part of the invariant that is easily forgotten.  Of two nodes in document order, one may be
inside the other, and then what is below the first need not come before what is below the second.  Nodes of one depth
are never inside each other (`append_lt_append`).
-/

namespace Regraft

open Xml (Address Document Node)

/-- How far below a node a test leads. -/
def Test.depth : Test → Nat
  | .here => 0
  | _ => 1

/-- The nodes `bs` come one after the other in document order, all of them `m` levels below `a`. -/
structure Below (m : Nat) (a : Address) (bs : List Address) : Prop where
  ordered : bs.Pairwise (· < ·)
  descend : ∀ b ∈ bs, ∃ e, b = a ++ e ∧ e.length = m

/-- What is below a node comes before what is as far below a later node of the same depth. -/
theorem append_lt_append {a a' : Address} (h : a < a') (hlen : a.length = a'.length) (e e' : Address) :
    a ++ e < a' ++ e' := by
  induction a generalizing a' with
  | nil =>
    rw [List.eq_nil_of_length_eq_zero hlen.symm] at h
    cases h
  | cons i a ih =>
    cases a' with
    | nil => cases hlen
    | cons j a' =>
      rw [List.cons_append, List.cons_append, List.cons_lt_cons_iff]
      rcases List.cons_lt_cons_iff.mp h with hlt | ⟨heq, hlt⟩
      · exact .inl hlt
      · exact .inr ⟨heq, ih hlt (Nat.succ.inj hlen)⟩

/-- Leaving out some of the nodes leaves the others in order. -/
theorem Below.sublist {m : Nat} {a : Address} {bs bs' : List Address} (h : Below m a bs)
    (hsub : bs'.Sublist bs) : Below m a bs' :=
  ⟨h.ordered.sublist hsub, fun b hb => h.descend b (hsub.mem hb)⟩

theorem below_nil (m : Nat) (a : Address) : Below m a [] :=
  ⟨.nil, fun _ hb => nomatch hb⟩

/-- The node itself is no level below itself. -/
theorem below_self (a : Address) : Below 0 a [a] := by
  refine ⟨List.pairwise_singleton _ a, fun b hb => ⟨[], ?_, rfl⟩⟩
  rw [List.mem_singleton.mp hb, List.append_nil]

variable {d : Document} {r : Resolver}

theorem addresses_childrenWhere (d : Document) (a : Address) (p : Node → Bool) :
    Item.addresses (Select.childrenWhere d a p) =
      ((d.addressedChildren a).filter fun c => p c.2).map (·.1) := by
  rw [Item.addresses, Select.childrenWhere, List.filterMap_map]
  exact congrFun List.filterMap_eq_map _

/-- The children of a node come in document order, and so do those of one kind. -/
theorem below_childrenWhere (d : Document) (a : Address) (p : Node → Bool) :
    Below 1 a (Item.addresses (Select.childrenWhere d a p)) := by
  have hall : Below 1 a ((d.addressedChildren a).map (·.1)) := by
    have haddresses : (d.addressedChildren a).map (·.1) =
        (List.range' 0 (d.children a).length).map fun i => a ++ [i] := by
      rw [Document.addressedChildren, List.map_map, ← List.zipIdx_map_snd, List.map_map]
      rfl
    rw [haddresses]
    constructor
    · refine List.pairwise_map.mpr ((List.pairwise_lt_range' 1 Nat.one_pos).imp fun {i j} hij => ?_)
      exact List.append_left_lt (List.cons_lt_cons_iff.mpr (.inl hij))
    · intro b hb
      obtain ⟨i, -, rfl⟩ := List.mem_map.mp hb
      exact ⟨[i], rfl, rfl⟩
  rw [addresses_childrenWhere]
  exact hall.sublist (List.filter_sublist.map _)

/-- A test leads to nodes one level below the node or to the node itself. -/
theorem below_testItems {a : Address} {t : Test} (ht : t ≠ .parent) {items : List Item}
    (h : Select.testItems d r a t = .ok items) : Below t.depth a (Item.addresses items) := by
  cases t with
  | here =>
    cases h
    exact below_self a
  | parent => exact absurd rfl ht
  | anyElement =>
    cases h
    exact below_childrenWhere d a _
  | text =>
    cases h
    have hnone : Item.addresses ((d.children a).filterMap fun n => n.textValue?.map Item.text) = [] := by
      rw [Item.addresses, List.filterMap_filterMap, List.filterMap_eq_nil_iff]
      intro n _
      cases n.textValue? <;> rfl
    rw [hnone]
    exact below_nil 1 a
  | element n =>
    obtain ⟨q, -, rfl⟩ := map_ok.mp h
    exact below_childrenWhere d a _
  | «attribute» n =>
    obtain ⟨q, -, rfl⟩ := map_ok.mp h
    have hnone : Item.addresses ((d.attribute? a q).map Item.text).toList = [] := by
      cases d.attribute? a q <;> rfl
    rw [hnone]
    exact below_nil 1 a

/-! ## Predicates only leave items out -/

theorem filterItems_sublist {keep : Item → Except Error Bool} {items kept : List Item}
    (h : Select.filterItems keep items = .ok kept) : kept.Sublist items := by
  induction items generalizing kept with
  | nil =>
    cases h
    exact .refl _
  | cons i rest ih =>
    obtain ⟨here, -, h⟩ := bind_ok.mp h
    obtain ⟨more, hmore, h⟩ := bind_ok.mp h
    cases h
    cases here with
    | true => exact (ih hmore).cons_cons i
    | false => exact (ih hmore).cons i

theorem filter_sublist {p : Predicate} {items kept : List Item} (h : Select.filter d r p items = .ok kept) :
    kept.Sublist items := by
  cases p with
  | position n =>
    rw [Select.filter] at h
    cases h
    cases hn : items[n - 1]? with
    | none => exact List.nil_sublist items
    | some i => exact List.singleton_sublist.mpr (List.mem_of_getElem? hn)
  | «exists» p =>
    rw [Select.filter] at h
    exact filterItems_sublist h
  | equals p literal =>
    rw [Select.filter] at h
    exact filterItems_sublist h
  | differs p literal =>
    rw [Select.filter] at h
    exact filterItems_sublist h

/-- Predicates leave out items, and keep the others in their order. -/
theorem filters_sublist {ps : List Predicate} {items kept : List Item}
    (h : Select.filters d r ps items = .ok kept) : kept.Sublist items := by
  induction ps generalizing items with
  | nil =>
    rw [Select.filters] at h
    cases h
    exact .refl _
  | cons p rest ih =>
    rw [Select.filters] at h
    obtain ⟨some, hsome, h⟩ := bind_ok.mp h
    exact (ih h).trans (filter_sublist hsome)

/-! ## Steps -/

section Several

variable {ε α β : Type} {f : α → Except ε (List β)} {as : List α} {found : List (List β)}

/-- What several contexts lead to together is what one of them leads to. -/
theorem mem_flatten_of_mapM (h : as.mapM f = .ok found) {b : β} :
    b ∈ found.flatten ↔ ∃ a ∈ as, ∃ bs, f a = .ok bs ∧ b ∈ bs := by
  induction as generalizing found with
  | nil =>
    rw [mapM_nil_ok.mp h]
    simp
  | cons a as ih =>
    obtain ⟨bs, found, hbs, hfound, rfl⟩ := mapM_cons_ok.mp h
    rw [List.flatten_cons, List.mem_append, ih hfound]
    constructor
    · rintro (hb | ⟨a', ha', hb⟩)
      · exact ⟨a, List.mem_cons_self, bs, hbs, hb⟩
      · exact ⟨a', List.mem_cons_of_mem _ ha', hb⟩
    · rintro ⟨a', ha', bs', hbs', hb⟩
      rcases List.mem_cons.mp ha' with rfl | ha'
      · cases hbs.symm.trans hbs'
        exact .inl hb
      · exact .inr ⟨a', ha', bs', hbs', hb⟩

/-- What several contexts lead to together is ordered if what each of them leads to is, and if what comes from one
context comes before what comes from a later one. -/
theorem pairwise_flatten_of_mapM {R : β → β → Prop} {S : α → α → Prop} (h : as.mapM f = .ok found)
    (has : as.Pairwise S) (hone : ∀ a ∈ as, ∀ bs, f a = .ok bs → bs.Pairwise R)
    (htwo : ∀ a a', a ∈ as → a' ∈ as → S a a' → ∀ bs bs', f a = .ok bs → f a' = .ok bs' →
      ∀ b ∈ bs, ∀ b' ∈ bs', R b b') : found.flatten.Pairwise R := by
  induction as generalizing found with
  | nil =>
    rw [mapM_nil_ok.mp h]
    exact .nil
  | cons a as ih =>
    obtain ⟨bs, found, hbs, hfound, rfl⟩ := mapM_cons_ok.mp h
    obtain ⟨hlater, has⟩ := List.pairwise_cons.mp has
    rw [List.flatten_cons]
    refine List.pairwise_append.mpr ⟨hone a List.mem_cons_self bs hbs, ?_, fun b hb b' hb' => ?_⟩
    · exact ih hfound has (fun a ha => hone a (List.mem_cons_of_mem _ ha)) fun a a' ha ha' =>
        htwo a a' (List.mem_cons_of_mem _ ha) (List.mem_cons_of_mem _ ha')
    · obtain ⟨a', ha', bs', hbs', hmem⟩ := (mem_flatten_of_mapM hfound).mp hb'
      exact htwo a a' List.mem_cons_self (List.mem_cons_of_mem _ ha') (hlater a' ha') bs bs' hbs hbs' b hb b' hmem

end Several

/-- A step leads to nodes that are as far below as its test says. -/
theorem below_selectNodes {s : Step} (hs : s.test ≠ .parent) {a : Address} {found : List Address}
    (h : d.selectNodes r a s = .ok found) : Below s.test.depth a found := by
  obtain ⟨raw, test, predicates⟩ := s
  obtain ⟨kept, hkept, rfl⟩ := map_ok.mp h
  rw [Select.step] at hkept
  split at hkept
  · rename_i items hitems
    exact (below_testItems hs hitems).sublist ((filters_sublist hkept).filterMap _)
  · cases hkept

/-- What a step leads to from several nodes of one depth in document order is so, too. -/
theorem ordered_of_mapM {s : Step} (hs : s.test ≠ .parent) {n : Nat} {contexts : List Address}
    {found : List (List Address)} (hlen : ∀ a ∈ contexts, a.length = n)
    (hcontexts : contexts.Pairwise (· < ·))
    (h : contexts.mapM (fun a => d.selectNodes r a s) = .ok found) :
    found.flatten.Pairwise (· < ·) ∧
      ∀ b ∈ found.flatten, ∃ a ∈ contexts, ∃ e, b = a ++ e ∧ e.length = s.test.depth := by
  constructor
  · refine pairwise_flatten_of_mapM h hcontexts (fun a _ bs hbs => (below_selectNodes hs hbs).ordered) ?_
    intro a a' ha ha' hlt bs bs' hbs hbs' b hb b' hb'
    obtain ⟨e, rfl, -⟩ := (below_selectNodes hs hbs).descend b hb
    obtain ⟨e', rfl, -⟩ := (below_selectNodes hs hbs').descend b' hb'
    exact append_lt_append hlt (by rw [hlen a ha, hlen a' ha']) e e'
  · intro b hb
    obtain ⟨a, ha, bs, hbs, hmem⟩ := (mem_flatten_of_mapM h).mp hb
    exact ⟨a, ha, (below_selectNodes hs hbs).descend b hmem⟩

/-- Steps downwards reach nodes in document order, none of them twice. -/
theorem reach_ordered {steps : List Step} (hdown : ∀ s ∈ steps, s.test ≠ .parent) {n : Nat}
    {contexts reached : List Address} (hlen : ∀ a ∈ contexts, a.length = n)
    (hcontexts : contexts.Pairwise (· < ·)) (h : d.reach r steps contexts = .ok reached) :
    reached.Pairwise (· < ·) := by
  induction steps generalizing contexts n with
  | nil =>
    cases h
    exact hcontexts
  | cons s rest ih =>
    obtain ⟨found, hfound, h⟩ := reach_cons_ok.mp h
    obtain ⟨hordered, hdescend⟩ := ordered_of_mapM (hdown s List.mem_cons_self) hlen hcontexts hfound
    refine ih (fun t ht => hdown t (List.mem_cons_of_mem _ ht)) (n := n + s.test.depth) ?_ hordered h
    intro b hb
    obtain ⟨a, ha, e, rfl, he⟩ := hdescend b hb
    rw [List.length_append, hlen a ha, he]

/-- A query from one node, without steps to the parent, selects the nodes that its steps reach, in document
order and none of them twice. -/
theorem select_of_reach {steps : List Step} (hdown : ∀ s ∈ steps, s.test ≠ .parent) {a : Address}
    {reached : List Address} (h : d.reach r steps [a] = .ok reached) :
    ∃ items, Select.steps d r steps [.node a] = .ok items ∧ Item.addresses items = reached ∧
      reached.Pairwise (· < ·) := by
  have hfrom : d.reach r steps (Item.addresses [.node a]) = .ok reached := h
  obtain ⟨items, hitems, haddresses⟩ := steps_of_reach hdown hfrom
  refine ⟨items, hitems, haddresses, reach_ordered hdown (n := a.length) ?_ (List.pairwise_singleton _ a) h⟩
  intro b hb
  rw [List.mem_singleton.mp hb]

end Regraft
