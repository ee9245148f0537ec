import Regraft.Select
import Regraft.Proofs.Success
/-!
# Prefixes that a query uses

There is one reason for which a query fails: a step names an element or an attribute with a prefix that is not
bound.  The step may be one of the path or, at any depth, one of a path in a predicate.  Names are looked up only
when their steps are taken, so a query does not have to fail although a prefix is not bound, but there is no other
way to fail.

* `Select.StepsTake` and the two relations with it: the steps that a query comes to take;
* `takes_of_steps` and the four lemmas with it: the error of each part of a query is about a step that it takes;
* `exists_select_of_binds`: a query all of whose prefixes are bound succeeds, whatever the document is.
-/

namespace Regraft

open Xml (Address Document)

/-! ## 1. Steps at every depth

Paths have steps, steps have predicates, and predicates have paths, so everything in this module comes in three or more
parts.  The steps of a path at all depths are a list, which is what a decidable check of a path goes through. -/

/-- The prefix that is looked up for a test. -/
def Test.usedPrefix? : Test → Option String
  | .element n | .attribute n => n.namespacePrefix
  | _ => none

mutual

/-- All steps of a path, those in predicates included. -/
def Path.allSteps : Path → List Step
  | ⟨_, steps⟩ => stepsWithin steps

/-- All steps of several. -/
def stepsWithin : List Step → List Step
  | [] => []
  | s :: rest => s.allSteps ++ stepsWithin rest

/-- A step with those in its predicates. -/
def Step.allSteps : Step → List Step
  | ⟨raw, test, predicates⟩ => ⟨raw, test, predicates⟩ :: stepsWithinPredicates predicates

/-- All steps in several predicates. -/
def stepsWithinPredicates : List Predicate → List Step
  | [] => []
  | p :: rest => p.allSteps ++ stepsWithinPredicates rest

/-- All steps in a predicate. -/
def Predicate.allSteps : Predicate → List Step
  | .position _ => []
  | .exists p | .equals p _ | .differs p _ => p.allSteps

end

theorem Path.allSteps_eq (p : Path) : p.allSteps = stepsWithin p.steps := by
  cases p
  rw [allSteps]

theorem allSteps_subset_stepsWithin {s : Step} {steps : List Step} (hs : s ∈ steps) :
    s.allSteps ⊆ stepsWithin steps := by
  induction steps with
  | nil => cases hs
  | cons t rest ih =>
    rw [stepsWithin]
    rcases List.mem_cons.mp hs with rfl | hs
    · exact List.subset_append_left _ _
    · exact List.subset_append_of_subset_right _ (ih hs)

/-! ## 2. Steps that a query takes

Which steps a query takes depends on the document.  A step is taken if the steps before it lead to some node, and a step
in a predicate if there is an item that the predicate is asked of.  The relations follow the query, with the items that
it has come to. -/

/-- The path that a predicate asks. -/
def Predicate.path? : Predicate → Option Path
  | .position _ => none
  | .exists p | .equals p _ | .differs p _ => some p

variable {d : Document} {r : Resolver}

namespace Select

section

variable (d r)

mutual

/-- To take steps from items, a query comes to take the step `t` from a node: the first step or one in its predicates,
or, from what the first step leads to, one that comes later. -/
inductive StepsTake : List Step → List Item → Step → Prop
  | first {s : Step} {rest : List Step} {items : List Item} {a : Address} {t : Step} (ha : a ∈ Item.addresses items)
      (h : StepTakes s a t) : StepsTake (s :: rest) items t
  | later {s : Step} {rest : List Step} {items next : List Item} {t : Step}
      (hnext : gather (step d r s) (Item.addresses items) = .ok next)
      (h : StepsTake rest (if s.test = .parent then next.eraseDups else next) t) : StepsTake (s :: rest) items t

/-- To take one step from a node, a query takes this step, and what its predicates ask of the nodes that its test
leads to. -/
inductive StepTakes : Step → Address → Step → Prop
  | self (s : Step) (a : Address) : StepTakes s a s
  | inside {raw : String} {test : Test} {predicates : List Predicate} {a : Address} {items : List Item} {t : Step}
      (hitems : testItems d r a test = .ok items) (h : FiltersTake predicates items t) :
      StepTakes ⟨raw, test, predicates⟩ a t

/-- To filter items, a query asks the path of the first predicate of every node, and of what is left those of the
others. -/
inductive FiltersTake : List Predicate → List Item → Step → Prop
  | first {p : Predicate} {rest : List Predicate} {items : List Item} {q : Path} {a : Address} {t : Step}
      (hq : p.path? = some q) (ha : .node a ∈ items) (h : StepsTake q.steps [.node a] t) :
      FiltersTake (p :: rest) items t
  | later {p : Predicate} {rest : List Predicate} {items kept : List Item} {t : Step}
      (hkept : filter d r p items = .ok kept) (h : FiltersTake rest kept t) : FiltersTake (p :: rest) items t

end

end

end Select

theorem Predicate.allSteps_of_path {p : Predicate} {q : Path} (h : p.path? = some q) :
    p.allSteps = stepsWithin q.steps := by
  cases p with
  | position n => cases h
  | «exists» p =>
    cases h
    rw [Predicate.allSteps, Path.allSteps_eq]
  | equals p literal =>
    cases h
    rw [Predicate.allSteps, Path.allSteps_eq]
  | differs p literal =>
    cases h
    rw [Predicate.allSteps, Path.allSteps_eq]

open Select (StepsTake StepTakes FiltersTake)

mutual

/-- Only steps of the path are taken, those in predicates included. -/
theorem mem_of_stepsTake : ∀ {ss : List Step} {items : List Item} {t : Step}, StepsTake d r ss items t →
    t ∈ stepsWithin ss
  | _, _, _, .first _ h => by
    rw [stepsWithin]
    exact List.mem_append_left _ (mem_of_stepTakes h)
  | _, _, _, .later _ h => by
    rw [stepsWithin]
    exact List.mem_append_right _ (mem_of_stepsTake h)

/-- The same of one step. -/
theorem mem_of_stepTakes : ∀ {s : Step} {a : Address} {t : Step}, StepTakes d r s a t → t ∈ s.allSteps
  | ⟨_, _, _⟩, _, _, .self _ _ => by
    rw [Step.allSteps]
    exact List.mem_cons_self
  | _, _, _, .inside _ h => by
    rw [Step.allSteps]
    exact List.mem_cons_of_mem _ (mem_of_filtersTake h)

/-- And of several predicates. -/
theorem mem_of_filtersTake : ∀ {ps : List Predicate} {items : List Item} {t : Step}, FiltersTake d r ps items t →
    t ∈ stepsWithinPredicates ps
  | _, _, _, .first hq _ h => by
    rw [stepsWithinPredicates, Predicate.allSteps_of_path hq]
    exact List.mem_append_left _ (mem_of_stepsTake h)
  | _, _, _, .later _ h => by
    rw [stepsWithinPredicates]
    exact List.mem_append_right _ (mem_of_filtersTake h)

end

/-! ## 3. Unbound prefixes

One notion for the error and the step that it is about (`Misses`).  Of a single test it is an equivalence. -/

namespace Resolver

/-- The error says of the step that the prefix of its name is not bound. -/
def Misses (r : Resolver) (t : Step) (e : Error) : Prop :=
  ∃ p, t.test.usedPrefix? = some p ∧ r.namespaces.resolve p = none ∧
    e = .structuralQuery t.raw ⟨p, r.namespaces.prefixes⟩

theorem prefixed_error {r : Resolver} {p l : String} {u : UnboundPrefix} :
    r.prefixed p l = .error u ↔ r.namespaces.resolve p = none ∧ u = ⟨p, r.namespaces.prefixes⟩ := by
  unfold prefixed
  split
  · rename_i uri hsome
    exact ⟨nofun, fun ⟨hnone, _⟩ => by rw [hsome] at hnone; cases hnone⟩
  · rename_i hnone
    exact ⟨fun h => by cases h; exact ⟨hnone, rfl⟩, fun ⟨_, hu⟩ => by rw [hu]⟩

end Resolver

/-- The test of a step fails exactly if the prefix of its name is not bound. -/
theorem testItems_error {a : Address} {t : Test} {u : UnboundPrefix} :
    Select.testItems d r a t = .error u ↔
      ∃ p, t.usedPrefix? = some p ∧ r.namespaces.resolve p = none ∧ u = ⟨p, r.namespaces.prefixes⟩ := by
  cases t with
  | here => exact ⟨nofun, nofun⟩
  | parent => exact ⟨nofun, nofun⟩
  | anyElement => exact ⟨nofun, nofun⟩
  | text => exact ⟨nofun, nofun⟩
  | element n =>
    obtain ⟨namespacePrefix, localPart⟩ := n
    cases namespacePrefix with
    | none => exact ⟨nofun, nofun⟩
    | some p =>
      refine (map_error.trans Resolver.prefixed_error).trans ⟨fun h => ⟨p, rfl, h⟩, ?_⟩
      rintro ⟨_, hp, h⟩
      cases hp
      exact h
  | «attribute» n =>
    obtain ⟨namespacePrefix, localPart⟩ := n
    cases namespacePrefix with
    | none => exact ⟨nofun, nofun⟩
    | some p =>
      refine (map_error.trans Resolver.prefixed_error).trans ⟨fun h => ⟨p, rfl, h⟩, ?_⟩
      rintro ⟨_, hp, h⟩
      cases hp
      exact h

/-! ## 4. What the error of a query is about

In both directions.  An error of any part of a query is the error of a step that has been taken, by recursion on the
path.  And a query that takes a step with an unbound prefix fails, but perhaps because of another such step, which it
has taken before. -/

/-- An error of several contexts is that of one of them. -/
theorem gather_error {f : Address → Except Error (List Item)} {contexts : List Address} {e : Error}
    (h : Select.gather f contexts = .error e) : ∃ a ∈ contexts, f a = .error e := by
  induction contexts with
  | nil => cases h
  | cons a rest ih =>
    rw [Select.gather] at h
    rcases bind_error.mp h with hhere | ⟨here, -, h⟩
    · exact ⟨a, List.mem_cons_self, hhere⟩
    · rcases bind_error.mp h with hmore | ⟨more, -, h⟩
      · obtain ⟨b, hb, herror⟩ := ih hmore
        exact ⟨b, List.mem_cons_of_mem _ hb, herror⟩
      · cases h

/-- An error of a filter is that of one item. -/
theorem filterItems_error {keep : Item → Except Error Bool} {items : List Item} {e : Error}
    (h : Select.filterItems keep items = .error e) : ∃ i ∈ items, keep i = .error e := by
  induction items with
  | nil => cases h
  | cons i rest ih =>
    rw [Select.filterItems] at h
    rcases bind_error.mp h with hhere | ⟨here, -, h⟩
    · exact ⟨i, List.mem_cons_self, hhere⟩
    · rcases bind_error.mp h with hmore | ⟨more, -, h⟩
      · obtain ⟨j, hj, herror⟩ := ih hmore
        exact ⟨j, List.mem_cons_of_mem _ hj, herror⟩
      · cases h

/-- A predicate that asks a path of every item fails as the path does. -/
theorem filterItems_ask_error {ask : Item → Except Error (List Item)} {keep : List Item → Bool} {items : List Item}
    {e : Error} (h : Select.filterItems (fun i => return keep (← ask i)) items = .error e) :
    ∃ i ∈ items, ask i = .error e := by
  obtain ⟨i, hi, hkeep⟩ := filterItems_error h
  rcases bind_error.mp hkeep with hask | ⟨found, -, hfound⟩
  · exact ⟨i, hi, hask⟩
  · cases hfound

/-- A predicate with a path asks it of every item. -/
theorem filter_of_path (d : Document) (r : Resolver) {p : Predicate} {q : Path} (h : p.path? = some q) :
    ∃ keep : List Item → Bool, ∀ items,
      Select.filter d r p items = Select.filterItems (fun i => return keep (← Select.fromItem d r q i)) items := by
  cases p with
  | position n => cases h
  | «exists» p =>
    cases h
    exact ⟨fun found => !found.isEmpty, fun items => by rw [Select.filter]⟩
  | equals p literal =>
    cases h
    exact ⟨fun found => found.any fun j => j.stringValue d == literal, fun items => by rw [Select.filter]⟩
  | differs p literal =>
    cases h
    exact ⟨fun found => found.any fun j => j.stringValue d != literal, fun items => by rw [Select.filter]⟩

theorem fromItem_node (p : Path) (a : Address) :
    Select.fromItem d r p (.node a) = Select.steps d r p.steps [.node a] := by
  cases p
  rw [Select.fromItem]

mutual

/-- The error of a path is about a step that it takes, in predicates or not. -/
theorem takes_of_steps : ∀ (ss : List Step) (items : List Item) (e : Error),
    Select.steps d r ss items = .error e → ∃ t, StepsTake d r ss items t ∧ r.Misses t e
  | [], _, _, h => by
    rw [Select.steps] at h
    cases h
  | s :: rest, _, e, h => by
    rw [Select.steps] at h
    rcases bind_error.mp h with hgather | ⟨next, hnext, h⟩
    · obtain ⟨a, ha, hstep⟩ := gather_error hgather
      obtain ⟨t, ht, hmisses⟩ := takes_of_step s a e hstep
      exact ⟨t, .first ha ht, hmisses⟩
    · obtain ⟨t, ht, hmisses⟩ := takes_of_steps rest _ e h
      exact ⟨t, .later hnext ht, hmisses⟩

theorem takes_of_step : ∀ (s : Step) (a : Address) (e : Error),
    Select.step d r s a = .error e → ∃ t, StepTakes d r s a t ∧ r.Misses t e
  | ⟨raw, test, predicates⟩, a, e, h => by
    rw [Select.step] at h
    split at h
    · rename_i items hitems
      obtain ⟨t, ht, hmisses⟩ := takes_of_filters predicates items e h
      exact ⟨t, .inside hitems ht, hmisses⟩
    · rename_i unbound htest
      cases h
      obtain ⟨p, hused, hnone, rfl⟩ := testItems_error.mp htest
      exact ⟨⟨raw, test, predicates⟩, .self _ a, p, hused, hnone, rfl⟩

theorem takes_of_filters : ∀ (ps : List Predicate) (items : List Item) (e : Error),
    Select.filters d r ps items = .error e → ∃ t, FiltersTake d r ps items t ∧ r.Misses t e
  | [], _, _, h => by
    rw [Select.filters] at h
    cases h
  | p :: rest, items, e, h => by
    rw [Select.filters] at h
    rcases bind_error.mp h with hfilter | ⟨kept, hkept, h⟩
    · obtain ⟨q, a, t, hq, ha, ht, hmisses⟩ := takes_of_filter p items e hfilter
      exact ⟨t, .first hq ha ht, hmisses⟩
    · obtain ⟨t, ht, hmisses⟩ := takes_of_filters rest kept e h
      exact ⟨t, .later hkept ht, hmisses⟩

theorem takes_of_filter : ∀ (p : Predicate) (items : List Item) (e : Error),
    Select.filter d r p items = .error e →
      ∃ q a t, p.path? = some q ∧ .node a ∈ items ∧ StepsTake d r q.steps [.node a] t ∧ r.Misses t e
  | .position _, _, _, h => by
    rw [Select.filter] at h
    cases h
  | .exists p, _, e, h => by
    rw [Select.filter] at h
    obtain ⟨i, hi, hask⟩ := filterItems_ask_error h
    obtain ⟨a, t, rfl, ht, hmisses⟩ := takes_of_fromItem p i e hask
    exact ⟨p, a, t, rfl, hi, ht, hmisses⟩
  | .equals p _, _, e, h => by
    rw [Select.filter] at h
    obtain ⟨i, hi, hask⟩ := filterItems_ask_error h
    obtain ⟨a, t, rfl, ht, hmisses⟩ := takes_of_fromItem p i e hask
    exact ⟨p, a, t, rfl, hi, ht, hmisses⟩
  | .differs p _, _, e, h => by
    rw [Select.filter] at h
    obtain ⟨i, hi, hask⟩ := filterItems_ask_error h
    obtain ⟨a, t, rfl, ht, hmisses⟩ := takes_of_fromItem p i e hask
    exact ⟨p, a, t, rfl, hi, ht, hmisses⟩

theorem takes_of_fromItem : ∀ (p : Path) (i : Item) (e : Error),
    Select.fromItem d r p i = .error e → ∃ a t, i = .node a ∧ StepsTake d r p.steps [.node a] t ∧ r.Misses t e
  | ⟨_, ss⟩, .node a, e, h => by
    rw [Select.fromItem] at h
    obtain ⟨t, ht, hmisses⟩ := takes_of_steps ss _ e h
    exact ⟨a, t, rfl, ht, hmisses⟩
  | ⟨_, _⟩, .text _, _, h => by
    rw [Select.fromItem] at h
    cases h

end

theorem exists_gather_error {f : Address → Except Error (List Item)} {contexts : List Address} {a : Address}
    (ha : a ∈ contexts) {e : Error} (h : f a = .error e) : ∃ e', Select.gather f contexts = .error e' := by
  induction contexts with
  | nil => cases ha
  | cons b rest ih =>
    rw [Select.gather]
    cases hb : f b with
    | error e' => exact ⟨e', rfl⟩
    | ok here =>
      rcases List.mem_cons.mp ha with rfl | ha
      · cases h.symm.trans hb
      · obtain ⟨e', he'⟩ := ih ha
        exact ⟨e', by rw [he']; rfl⟩

theorem exists_filterItems_error {keep : Item → Except Error Bool} {items : List Item} {i : Item} (hi : i ∈ items)
    {e : Error} (h : keep i = .error e) : ∃ e', Select.filterItems keep items = .error e' := by
  induction items with
  | nil => cases hi
  | cons j rest ih =>
    rw [Select.filterItems]
    cases hj : keep j with
    | error e' => exact ⟨e', rfl⟩
    | ok here =>
      rcases List.mem_cons.mp hi with rfl | hi
      · cases h.symm.trans hj
      · obtain ⟨e', he'⟩ := ih hi
        exact ⟨e', by rw [he']; rfl⟩

theorem exists_filterItems_ask_error {ask : Item → Except Error (List Item)} {keep : List Item → Bool}
    {items : List Item} {i : Item} (hi : i ∈ items) {e : Error} (h : ask i = .error e) :
    ∃ e', Select.filterItems (fun i => return keep (← ask i)) items = .error e' :=
  exists_filterItems_error hi (by rw [h]; rfl)

mutual

/-- A query that takes a step whose prefix is not bound fails, be it because of this step or of another. -/
theorem exists_error_of_stepsTake : ∀ {ss : List Step} {items : List Item} {t : Step} {e : Error},
    StepsTake d r ss items t → r.Misses t e → ∃ e', Select.steps d r ss items = .error e'
  | _, _, _, _, .first ha h, hmisses => by
    obtain ⟨e, he⟩ := exists_error_of_stepTakes h hmisses
    obtain ⟨e', he'⟩ := exists_gather_error ha he
    exact ⟨e', by rw [Select.steps, he']; rfl⟩
  | _, _, _, _, .later hnext h, hmisses => by
    obtain ⟨e', he'⟩ := exists_error_of_stepsTake h hmisses
    exact ⟨e', by rw [Select.steps, hnext]; exact he'⟩

theorem exists_error_of_stepTakes : ∀ {s : Step} {a : Address} {t : Step} {e : Error},
    StepTakes d r s a t → r.Misses t e → ∃ e', Select.step d r s a = .error e'
  | ⟨raw, test, predicates⟩, a, _, _, .self _ _, ⟨p, hused, hnone, _⟩ => by
    have htest : Select.testItems d r a test = .error ⟨p, r.namespaces.prefixes⟩ :=
      testItems_error.mpr ⟨p, hused, hnone, rfl⟩
    exact ⟨_, by rw [Select.step, htest]⟩
  | _, _, _, _, .inside hitems h, hmisses => by
    obtain ⟨e', he'⟩ := exists_error_of_filtersTake h hmisses
    exact ⟨e', by rw [Select.step, hitems]; exact he'⟩

theorem exists_error_of_filtersTake : ∀ {ps : List Predicate} {items : List Item} {t : Step} {e : Error},
    FiltersTake d r ps items t → r.Misses t e → ∃ e', Select.filters d r ps items = .error e'
  | _, _, _, _, .first hq ha h, hmisses => by
    obtain ⟨e, he⟩ := exists_error_of_stepsTake h hmisses
    obtain ⟨keep, hfilter⟩ := filter_of_path d r hq
    obtain ⟨e', he'⟩ := exists_filterItems_ask_error ha ((fromItem_node _ _).trans he)
    exact ⟨e', by rw [Select.filters, hfilter, he']; rfl⟩
  | _, _, _, _, .later hkept h, hmisses => by
    obtain ⟨e', he'⟩ := exists_error_of_filtersTake h hmisses
    exact ⟨e', by rw [Select.filters, hkept]; exact he'⟩

end

/-! ## 5. Paths whose prefixes are bound

With all prefixes bound there is no step that could be missed, so the query succeeds. -/

namespace Namespaces

/-- Every prefix that the path uses is bound. -/
def Binds (ns : Namespaces) (p : Path) : Prop :=
  ∀ t ∈ p.allSteps, ∀ used ∈ t.test.usedPrefix?, (ns.resolve used).isSome = true

instance (ns : Namespaces) (p : Path) : Decidable (ns.Binds p) := by
  unfold Binds
  infer_instance

end Namespaces

/-- A step of the path that is bound is not missed. -/
theorem not_misses_of_binds {p : Path} (h : r.namespaces.Binds p) {t : Step} (ht : t ∈ stepsWithin p.steps)
    (e : Error) : ¬ r.Misses t e := by
  rintro ⟨used, hused, hnone, -⟩
  have hsome := h t (p.allSteps_eq ▸ ht) used hused
  rw [hnone] at hsome
  cases hsome

/-- **A query succeeds if all its prefixes are bound.** -/
theorem exists_select_of_binds {p : Path} (h : r.namespaces.Binds p) (context : Address) :
    ∃ items, d.select r context p = .ok items := by
  cases hselect : d.select r context p with
  | ok items => exact ⟨items, rfl⟩
  | error e =>
    obtain ⟨t, ht, hmisses⟩ := takes_of_steps p.steps _ e hselect
    exact absurd hmisses (not_misses_of_binds h (mem_of_stepsTake ht) e)

/-- So does each step of the path. -/
theorem exists_selectNodes_of_binds {p : Path} (h : r.namespaces.Binds p) {s : Step} (hs : s ∈ p.steps)
    (context : Address) : ∃ found, d.selectNodes r context s = .ok found := by
  cases hstep : Select.step d r s context with
  | ok items => exact ⟨Item.addresses items, by rw [Document.selectNodes, hstep]; rfl⟩
  | error e =>
    obtain ⟨t, ht, hmisses⟩ := takes_of_step s context e hstep
    exact absurd hmisses (not_misses_of_binds h (allSteps_subset_stepsWithin hs (mem_of_stepTakes ht)) e)

end Regraft
