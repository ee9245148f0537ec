import Mathlib.Data.Set.Defs
import Regraft.Proofs.Calls
import Regraft.Proofs.DocumentOrder
/-!
# What a query selects

A step leads from several nodes to all that it leads to from one of them.  So the steps of a path lead, one after
the other, from the context alone to a set of nodes, `Document.denoted`, which knows neither an order nor how
often a node is met.

A query holds lists instead.  It puts together what a step leads to from each node, sorts nothing, and drops
repetitions only after steps to the parent.  That this is enough rests on what every step keeps: the nodes are of
one depth and in document order (`Level`).  Of such nodes, two different ones have no common descendant, and the
parents of two that are not the same come in their order, with the repetitions side by side.
-/

namespace Regraft

open Xml (Address Document)

/-! ## 1. What steps denote

Sets of nodes, by recursion on the steps.  A step leads from a set to everything that it leads to from one of its
members. -/

/-- The nodes that a step leads to from some node of a set. -/
def Xml.Document.stepFrom (d : Document) (r : Resolver) (s : Step) (contexts : Set Address) : Set Address :=
  {b | ∃ a ∈ contexts, ∃ found, d.selectNodes r a s = .ok found ∧ b ∈ found}

/-- The nodes that steps lead to, one after the other, from a set. -/
def Xml.Document.denoted (d : Document) (r : Resolver) (steps : List Step) (contexts : Set Address) : Set Address :=
  steps.foldl (fun nodes s => d.stepFrom r s nodes) contexts

/-- Whether a test leads to texts; all others lead to nodes. -/
def Test.yieldsTexts : Test → Bool
  | .text | .attribute _ => true
  | _ => false

/-- The nodes are of one depth, each before the next in document order. -/
structure Level (n : Nat) (nodes : List Address) : Prop where
  depth : ∀ a ∈ nodes, a.length = n
  ordered : nodes.Pairwise (· < ·)

theorem level_singleton (a : Address) : Level a.length [a] :=
  ⟨fun b hb => by rw [List.mem_singleton.mp hb], List.pairwise_singleton _ a⟩

variable {d : Document} {r : Resolver}

/-! ## 2. Items

Queries hold items, which are nodes or texts.  A text comes of the last step, if at all, and no step goes on from it. -/

theorem mem_addresses {items : List Item} {a : Address} : a ∈ Item.addresses items ↔ .node a ∈ items := by
  rw [Item.addresses, List.mem_filterMap]
  constructor
  · rintro ⟨i, hi, ha⟩
    cases i with
    | node b =>
      cases ha
      exact hi
    | text value => cases ha
  · exact fun h => ⟨.node a, h, rfl⟩

theorem addresses_flatten (found : List (List Item)) :
    Item.addresses found.flatten = (found.map Item.addresses).flatten :=
  List.filterMap_flatten

theorem isNone_address_of_testItems {a : Address} {t : Test} {items : List Item}
    (h : Select.testItems d r a t = .ok items) : ∀ i ∈ items, i.address?.isNone = t.yieldsTexts := by
  have hchildren : ∀ p, ∀ i ∈ Select.childrenWhere d a p, i.address?.isNone = false := by
    intro p i hi
    obtain ⟨c, -, rfl⟩ := List.mem_map.mp hi
    rfl
  intro i hi
  cases t with
  | here =>
    cases h
    obtain rfl := List.mem_singleton.mp hi
    rfl
  | parent =>
    cases h
    obtain ⟨b, -, rfl⟩ := Option.map_eq_some_iff.mp (Option.mem_toList.mp hi)
    rfl
  | anyElement =>
    cases h
    exact hchildren _ i hi
  | text =>
    cases h
    obtain ⟨n, -, hn⟩ := List.mem_filterMap.mp hi
    obtain ⟨value, -, rfl⟩ := Option.map_eq_some_iff.mp hn
    rfl
  | element n =>
    obtain ⟨q, -, rfl⟩ := map_ok.mp h
    exact hchildren _ i hi
  | «attribute» n =>
    obtain ⟨q, -, rfl⟩ := map_ok.mp h
    obtain ⟨value, -, rfl⟩ := Option.map_eq_some_iff.mp (Option.mem_toList.mp hi)
    rfl

/-- What a step leads to is what its test leads to, less what its predicates leave out. -/
theorem step_inv {s : Step} {a : Address} {items : List Item} (h : Select.step d r s a = .ok items) :
    ∃ all, Select.testItems d r a s.test = .ok all ∧ items.Sublist all := by
  obtain ⟨raw, test, predicates⟩ := s
  rw [Select.step] at h
  split at h
  · rename_i all hall
    exact ⟨all, hall, filters_sublist h⟩
  · cases h

/-! ## 3. Repetitions

Repetitions come of steps to the parent alone, and they stand side by side.  Dropping repetitions keeps the first of
each, so what is left is in order. -/

/-- What is left when repetitions are dropped is not repeated, and as ordered as before. -/
theorem pairwise_eraseDups {α : Type} [DecidableEq α] {R : α → α → Prop} (l : List α) (h : l.Pairwise R) :
    l.eraseDups.Pairwise fun a b => R a b ∧ a ≠ b := by
  match l with
  | [] => exact .nil
  | a :: l =>
    obtain ⟨ha, hl⟩ := List.pairwise_cons.mp h
    have hshorter : (l.filter fun b => !b == a).length < l.length + 1 :=
      Nat.lt_succ_of_le (List.length_filter_le _ l)
    rw [List.eraseDups_cons]
    refine List.pairwise_cons.mpr ⟨fun b hb => ?_, pairwise_eraseDups _ (hl.sublist List.filter_sublist)⟩
    obtain ⟨hb, hne⟩ := List.mem_filter.mp (List.mem_eraseDups.mp hb)
    exact ⟨ha b hb, fun heq => by simp [heq] at hne⟩
termination_by l.length

/-! ## 4. One step

`Level` is what every step keeps: nodes of one depth, in document order, each once.  For a step downwards that is
`ordered_of_mapM`; for one upwards it is the lemma on parents. -/

/-- The parents of nodes of one depth come in the order of the nodes. -/
theorem dropLast_lt_or_eq {a a' : Address} (h : a < a') (hlen : a.length = a'.length) :
    a.dropLast < a'.dropLast ∨ a.dropLast = a'.dropLast := by
  induction a generalizing a' with
  | nil =>
    rw [List.eq_nil_of_length_eq_zero hlen.symm] at h
    cases h
  | cons i a ih =>
    cases a' with
    | nil => cases hlen
    | cons j a' =>
      have hlen' : a.length = a'.length := Nat.succ.inj hlen
      by_cases hnil : a = []
      · subst hnil
        rw [List.eq_nil_of_length_eq_zero hlen'.symm]
        exact .inr rfl
      · have hnil' : a' ≠ [] := fun heq => hnil (List.eq_nil_of_length_eq_zero (by rw [hlen', heq]; rfl))
        rw [List.dropLast_cons_of_ne_nil hnil, List.dropLast_cons_of_ne_nil hnil', List.cons_lt_cons_iff]
        rcases List.cons_lt_cons_iff.mp h with hlt | ⟨rfl, hlt⟩
        · exact .inl (.inl hlt)
        · exact (ih hlt hlen').imp (fun hlt => .inr ⟨rfl, hlt⟩) fun heq => by rw [heq]

/-- A step to the parent leads there or nowhere. -/
theorem selectNodes_of_parent {s : Step} (hs : s.test = .parent) {a : Address} {found : List Address}
    (h : d.selectNodes r a s = .ok found) : found.Sublist (Document.parent? a).toList := by
  obtain ⟨items, hitems, rfl⟩ := map_ok.mp h
  obtain ⟨all, hall, hsub⟩ := step_inv hitems
  rw [hs] at hall
  cases hall
  have haddresses : Item.addresses ((Document.parent? a).map Item.node).toList = (Document.parent? a).toList := by
    cases Document.parent? a <;> rfl
  rw [← haddresses]
  exact hsub.filterMap _

theorem mem_parent_inv {s : Step} (hs : s.test = .parent) {a b : Address} {found : List Address}
    (h : d.selectNodes r a s = .ok found) (hb : b ∈ found) : a ≠ [] ∧ b = a.dropLast := by
  have hparent : Document.parent? a = some b :=
    Option.mem_toList.mp ((selectNodes_of_parent hs h).mem hb)
  cases a with
  | nil => cases hparent
  | cons i a =>
    cases hparent
    exact ⟨List.cons_ne_nil i a, rfl⟩

/-- A step that does not lead to parents leads from nodes of one level to nodes of one level. -/
theorem level_of_down {s : Step} (hs : s.test ≠ .parent) {n : Nat} {contexts : List Address}
    {found : List (List Address)} (hcontexts : Level n contexts)
    (h : contexts.mapM (fun a => d.selectNodes r a s) = .ok found) : Level (n + s.test.depth) found.flatten := by
  obtain ⟨hordered, hdescend⟩ := ordered_of_mapM hs hcontexts.depth hcontexts.ordered h
  refine ⟨fun b hb => ?_, hordered⟩
  obtain ⟨a, ha, e, rfl, he⟩ := hdescend b hb
  rw [List.length_append, hcontexts.depth a ha, he]

/-- So does a step to the parent once repetitions are dropped. -/
theorem level_of_parent {s : Step} (hs : s.test = .parent) {n : Nat} {contexts : List Address}
    {found : List (List Address)} (hcontexts : Level n contexts)
    (h : contexts.mapM (fun a => d.selectNodes r a s) = .ok found) :
    (∀ b ∈ found.flatten, b.length = n - 1) ∧ found.flatten.Pairwise fun a b => a < b ∨ a = b := by
  constructor
  · intro b hb
    obtain ⟨a, ha, bs, hbs, hmem⟩ := (mem_flatten_of_mapM h).mp hb
    rw [(mem_parent_inv hs hbs hmem).2, List.length_dropLast, hcontexts.depth a ha]
  · refine pairwise_flatten_of_mapM h hcontexts.ordered (fun a ha bs hbs => ?_) fun a a' ha ha' hlt => ?_
    · have hone : ∀ parent? : Option Address, parent?.toList.Pairwise fun a b => a < b ∨ a = b := by
        intro parent?
        cases parent? with
        | none => exact .nil
        | some b => exact List.pairwise_singleton _ b
      exact (hone _).sublist (selectNodes_of_parent hs hbs)
    · intro bs bs' hbs hbs' b hb b' hb'
      rw [(mem_parent_inv hs hbs hb).2, (mem_parent_inv hs hbs' hb').2]
      exact dropLast_lt_or_eq hlt (by rw [hcontexts.depth a ha, hcontexts.depth a' ha'])

theorem gather_eq_ok {f : Address → Except Error (List Item)} {contexts : List Address} {items : List Item} :
    Select.gather f contexts = .ok items ↔ ∃ found, contexts.mapM f = .ok found ∧ items = found.flatten := by
  induction contexts generalizing items with
  | nil =>
    constructor
    · intro h
      cases h
      exact ⟨[], rfl, rfl⟩
    · rintro ⟨found, hfound, rfl⟩
      rw [mapM_nil_ok.mp hfound]
      rfl
  | cons a contexts ih =>
    rw [Select.gather, bind_ok]
    constructor
    · rintro ⟨here, hhere, h⟩
      obtain ⟨more, hmore, h⟩ := bind_ok.mp h
      obtain ⟨found, hfound, rfl⟩ := ih.mp hmore
      cases h
      exact ⟨here :: found, mapM_cons_ok.mpr ⟨here, found, hhere, hfound, rfl⟩, rfl⟩
    · rintro ⟨all, hall, rfl⟩
      obtain ⟨here, found, hhere, hfound, rfl⟩ := mapM_cons_ok.mp hall
      exact ⟨here, hhere, bind_ok.mpr ⟨found.flatten, ih.mpr ⟨found, hfound, rfl⟩, rfl⟩⟩

theorem mapM_selectNodes {s : Step} {contexts : List Address} {found : List (List Item)}
    (h : contexts.mapM (Select.step d r s) = .ok found) :
    contexts.mapM (fun a => d.selectNodes r a s) = .ok (found.map Item.addresses) := by
  induction contexts generalizing found with
  | nil =>
    rw [mapM_nil_ok.mp h]
    rfl
  | cons a contexts ih =>
    obtain ⟨here, found, hhere, hfound, rfl⟩ := mapM_cons_ok.mp h
    exact mapM_cons_ok.mpr ⟨Item.addresses here, found.map Item.addresses, map_ok.mpr ⟨here, hhere, rfl⟩,
      ih hfound, rfl⟩

/-- What one step of a query makes of the items before it. -/
theorem steps_cons_ok {s : Step} {rest : List Step} {items selected : List Item} :
    Select.steps d r (s :: rest) items = .ok selected ↔
      ∃ found, (Item.addresses items).mapM (Select.step d r s) = .ok found ∧
        Select.steps d r rest (if s.test = .parent then found.flatten.eraseDups else found.flatten) =
          .ok selected := by
  rw [Select.steps, bind_ok]
  constructor
  · rintro ⟨next, hnext, h⟩
    obtain ⟨found, hfound, rfl⟩ := gather_eq_ok.mp hnext
    exact ⟨found, hfound, h⟩
  · rintro ⟨found, hfound, h⟩
    exact ⟨found.flatten, gather_eq_ok.mpr ⟨found, hfound, rfl⟩, h⟩

/-- The nodes are in order without repetitions once these are dropped from items whose nodes are in order. -/
theorem ordered_eraseDups {items : List Item}
    (h : (Item.addresses items).Pairwise fun a b => a < b ∨ a = b) :
    (Item.addresses items.eraseDups).Pairwise (· < ·) := by
  refine List.pairwise_filterMap.mpr ((pairwise_eraseDups items (List.pairwise_filterMap.mp h)).imp ?_)
  rintro i j ⟨hle, hne⟩ a ha b hb
  refine (hle a ha b hb).resolve_right fun heq => hne ?_
  cases i with
  | node a' =>
    cases j with
    | node b' =>
      cases ha
      cases hb
      rw [heq]
    | text value => cases hb
  | text value => cases ha

/-- **A step of a query leads from one level to another**, and to the nodes that it denotes. -/
theorem level_of_step {s : Step} {n : Nat} {contexts : List Address} {found : List (List Item)}
    (hcontexts : Level n contexts) (h : contexts.mapM (Select.step d r s) = .ok found) :
    let next := if s.test = .parent then found.flatten.eraseDups else found.flatten
    (∃ m, Level m (Item.addresses next)) ∧
      {b | b ∈ Item.addresses next} = d.stepFrom r s {a | a ∈ contexts} := by
  intro next
  have hnodes := mapM_selectNodes h
  have hmem : ∀ b, b ∈ Item.addresses next ↔ b ∈ Item.addresses found.flatten := by
    intro b
    simp only [next]
    split
    · rw [mem_addresses, mem_addresses, List.mem_eraseDups]
    · rfl
  constructor
  · by_cases hs : s.test = .parent
    · obtain ⟨hdepth, hordered⟩ := level_of_parent hs hcontexts hnodes
      rw [← addresses_flatten] at hdepth hordered
      refine ⟨n - 1, fun b hb => hdepth b ((hmem b).mp hb), ?_⟩
      simp only [next, if_pos hs]
      exact ordered_eraseDups hordered
    · have hlevel := level_of_down hs hcontexts hnodes
      rw [← addresses_flatten] at hlevel
      simp only [next, if_neg hs]
      exact ⟨_, hlevel⟩
  · ext b
    show b ∈ Item.addresses next ↔ _
    rw [hmem, addresses_flatten]
    exact mem_flatten_of_mapM hnodes

/-! ## 5. Queries

By induction on the steps, from the context alone, which is a level of its own. -/

/-- **A query keeps to levels from its context on**, and leads to the nodes that its steps denote. -/
theorem level_of_steps {steps : List Step} {n : Nat} {items selected : List Item}
    (hitems : Level n (Item.addresses items)) (h : Select.steps d r steps items = .ok selected) :
    (∃ m, Level m (Item.addresses selected)) ∧
      {b | b ∈ Item.addresses selected} = d.denoted r steps {a | a ∈ Item.addresses items} := by
  induction steps generalizing items n with
  | nil =>
    rw [Select.steps] at h
    cases h
    exact ⟨⟨n, hitems⟩, rfl⟩
  | cons s rest ih =>
    obtain ⟨found, hfound, h⟩ := steps_cons_ok.mp h
    obtain ⟨⟨m, hlevel⟩, hstep⟩ := level_of_step hitems hfound
    obtain ⟨hselected, hdenoted⟩ := ih hlevel h
    refine ⟨hselected, ?_⟩
    rw [hdenoted, hstep]
    rfl

/-- The last step of a query is taken from what the steps before it lead to. -/
theorem steps_concat {steps : List Step} {last : Step} {items selected : List Item}
    (h : Select.steps d r (steps ++ [last]) items = .ok selected) :
    ∃ before found, Select.steps d r steps items = .ok before ∧
      (Item.addresses before).mapM (Select.step d r last) = .ok found ∧
      selected = if last.test = .parent then found.flatten.eraseDups else found.flatten := by
  induction steps generalizing items with
  | nil =>
    obtain ⟨found, hfound, h⟩ := steps_cons_ok.mp h
    rw [Select.steps] at h
    cases h
    exact ⟨items, found, by rw [Select.steps], hfound, rfl⟩
  | cons s rest ih =>
    obtain ⟨first, hfirst, h⟩ := steps_cons_ok.mp h
    obtain ⟨before, found, hbefore, hfound, hselected⟩ := ih h
    exact ⟨before, found, steps_cons_ok.mpr ⟨first, hfirst, hbefore⟩, hfound, hselected⟩

/-- Whether a query selects texts or nodes is for its last step to say. -/
theorem isNone_address_of_steps {steps : List Step} {last : Step} {items selected : List Item}
    (h : Select.steps d r (steps ++ [last]) items = .ok selected) :
    ∀ i ∈ selected, i.address?.isNone = last.test.yieldsTexts := by
  obtain ⟨before, found, -, hfound, rfl⟩ := steps_concat h
  intro i hi
  have hmem : i ∈ found.flatten := by
    split at hi
    · exact List.mem_eraseDups.mp hi
    · exact hi
  obtain ⟨a, -, items, hitems, hmem⟩ := (mem_flatten_of_mapM hfound).mp hmem
  obtain ⟨all, hall, hsub⟩ := step_inv hitems
  exact isNone_address_of_testItems hall i (hsub.mem hmem)

theorem exists_of_isNone_address {i : Item} {b : Bool} (h : i.address?.isNone = b) :
    (b = true → ∃ value, i = .text value) ∧ (b = false → ∃ a, i = .node a) := by
  subst h
  cases i with
  | node a => exact ⟨nofun, fun _ => ⟨a, rfl⟩⟩
  | text value => exact ⟨fun _ => ⟨value, rfl⟩, nofun⟩

/-- **A query selects what its path denotes**, whatever the document, the context and the steps are.  The nodes
among the items are those that the steps denote, each before the next in document order, so that none is there
twice.  If the last step leads to texts, the items are the texts that it leads to from each of the nodes that the
steps before it denote, in document order of these nodes; otherwise all items are nodes. -/
theorem select_eq_denoted {context : Address} {p : Path} {items : List Item}
    (h : d.select r context p = .ok items) :
    {a | a ∈ Item.addresses items} = d.denoted r p.steps {context} ∧
    (Item.addresses items).Pairwise (· < ·) ∧
    (∀ steps last, p.steps = steps ++ [last] → last.test.yieldsTexts = true →
      ∃ (nodes : List Address) (found : List (List Item)),
        {a | a ∈ nodes} = d.denoted r steps {context} ∧ nodes.Pairwise (· < ·) ∧
        nodes.mapM (Select.step d r last) = .ok found ∧ items = found.flatten ∧
        ∀ i ∈ items, ∃ value, i = .text value) ∧
    ((∀ last ∈ p.steps.getLast?, last.test.yieldsTexts = false) → ∀ i ∈ items, ∃ a, i = .node a) := by
  have hcontext : {a | a ∈ Item.addresses [.node context]} = ({context} : Set Address) := by
    ext a
    exact List.mem_singleton
  have hstart : Level context.length (Item.addresses [.node context]) := level_singleton context
  obtain ⟨⟨m, hlevel⟩, hdenoted⟩ := level_of_steps hstart h
  rw [hcontext] at hdenoted
  rw [Document.select] at h
  refine ⟨hdenoted, hlevel.ordered, fun steps last hsteps htexts => ?_, fun hlast i hi => ?_⟩
  · rw [hsteps] at h
    obtain ⟨before, found, hbefore, hfound, hitems⟩ := steps_concat h
    obtain ⟨⟨n, hnodes⟩, hsame⟩ := level_of_steps hstart hbefore
    rw [hcontext] at hsame
    -- A step that ends in texts is none to the parent, so nothing is dropped after it.
    have hdown : last.test ≠ .parent := fun hparent => by
      rw [hparent] at htexts
      cases htexts
    rw [if_neg hdown] at hitems
    refine ⟨Item.addresses before, found, hsame, hnodes.ordered, hfound, hitems, fun i hi => ?_⟩
    exact (exists_of_isNone_address (isNone_address_of_steps h i hi)).1 htexts
  · rcases List.eq_nil_or_concat p.steps with hnil | ⟨steps, last, hsteps⟩
    · rw [hnil, Select.steps] at h
      cases h
      exact ⟨context, List.mem_singleton.mp hi⟩
    · rw [List.concat_eq_append] at hsteps
      rw [hsteps] at h hlast
      exact (exists_of_isNone_address (isNone_address_of_steps h i hi)).2 (hlast last (by simp))

namespace Sample

/-- From every `b` down to each `c`, back to the `b`, and down to the texts of those `c` of which their parent has a
second one: `b/c/../c[../c[2]]/text()`. -/
def winding : Path :=
  ⟨"b/c/../c[../c[2]]/text()",
    [⟨"b", .element ⟨none, "b"⟩, []⟩,
     ⟨"c", .element ⟨none, "c"⟩, []⟩,
     ⟨"..", .parent, []⟩,
     ⟨"c[../c[2]]", .element ⟨none, "c"⟩,
       [.exists ⟨"../c[2]", [⟨"..", .parent, []⟩, ⟨"c[2]", .element ⟨none, "c"⟩, [.position 2]⟩]⟩]⟩,
     ⟨"text()", .text, []⟩]⟩

end Sample

/-- Three `c` lead back to two `b`, and only the first of these has a second `c`. -/
theorem winding_selects_denoted :
    Sample.source.select ⟨.empty, ""⟩ [0] Sample.winding = .ok [.text "x", .text "y"] ∧
    ∃ (nodes : List Address) (found : List (List Item)),
      {a | a ∈ nodes} = Sample.source.denoted ⟨.empty, ""⟩ (Sample.winding.steps.take 4) {[0]} ∧
      nodes.Pairwise (· < ·) ∧
      nodes.mapM (Select.step Sample.source ⟨.empty, ""⟩ ⟨"text()", .text, []⟩) = .ok found ∧
      found.flatten = [.text "x", .text "y"] := by
  have hselect : Sample.source.select ⟨.empty, ""⟩ [0] Sample.winding = .ok [.text "x", .text "y"] := by rfl
  obtain ⟨-, -, htexts, -⟩ := select_eq_denoted hselect
  obtain ⟨nodes, found, hnodes, hordered, hfound, hitems, -⟩ :=
    htexts (Sample.winding.steps.take 4) ⟨"text()", .text, []⟩ rfl rfl
  exact ⟨hselect, nodes, found, hnodes, hordered, hfound, hitems.symm⟩

/-! ## Summary

**What is established.**  For every path, document and context: if a query has a result, its nodes are those that the
path denotes as a set, in document order and without repetitions; and a path that ends in texts has the texts of the
nodes before, in the order of these nodes.

**What is not.**  Whether there is a result is another question, see `QueryErrors`.  Texts may be alike, and then they
are there as often as there are nodes that have them. -/

end Regraft
