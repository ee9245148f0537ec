import Regraft.Proofs.Calls
import Regraft.Proofs.UsedPrefixes
/-!
# Errors of queries

A registry is asked for nothing but the URIs of prefixes, and a prefix that has none stops the query.  So a query that
fails has come to a step whose prefix is not bound, and a query that succeeds has asked only for bindings that are
there: a registry that has these bindings and others gives the same answers (`Resolver.Extends`), step by step and in
all predicates (`steps_of_extends` and the four lemmas with it).  `query_errors` puts the two together.
-/

namespace Regraft

open Xml (Address Document QName)

/-! ## 1. Larger registries

One registry extends another if it has all of its answers.  Names that are resolved in the one are resolved in the other
to the same. -/

/-- The second resolver keeps the bindings of the first one and its default namespace. -/
structure Resolver.Extends (r r' : Resolver) : Prop where
  bindings : ∀ p uri, r.namespaces.resolve p = some uri → r'.namespaces.resolve p = some uri
  defaultUri : r'.defaultUri = r.defaultUri

variable {d : Document} {r r' : Resolver}

section Names

variable (h : r.Extends r')

include h

theorem prefixed_of_extends {p l : String} {q : QName} (hq : r.prefixed p l = .ok q) : r'.prefixed p l = .ok q := by
  unfold Resolver.prefixed at hq ⊢
  split at hq
  · rename_i uri huri
    rw [h.bindings p uri huri]
    exact hq
  · cases hq

theorem elementName_of_extends {n : Name} {q : QName} (hq : r.elementName n = .ok q) : r'.elementName n = .ok q := by
  obtain ⟨namespacePrefix, localPart⟩ := n
  cases namespacePrefix with
  | none =>
    rw [Resolver.elementName, h.defaultUri]
    exact hq
  | some p => exact prefixed_of_extends h hq

theorem attributeName_of_extends {n : Name} {q : QName} (hq : r.attributeName n = .ok q) :
    r'.attributeName n = .ok q := by
  obtain ⟨namespacePrefix, localPart⟩ := n
  cases namespacePrefix with
  | none => exact hq
  | some p => exact prefixed_of_extends h hq

theorem testItems_of_extends {a : Address} {t : Test} {items : List Item}
    (hitems : Select.testItems d r a t = .ok items) : Select.testItems d r' a t = .ok items := by
  cases t with
  | element n =>
    obtain ⟨q, hq, rfl⟩ := map_ok.mp hitems
    exact map_ok.mpr ⟨q, elementName_of_extends h hq, rfl⟩
  | «attribute» n =>
    obtain ⟨q, hq, rfl⟩ := map_ok.mp hitems
    exact map_ok.mpr ⟨q, attributeName_of_extends h hq, rfl⟩
  | here => exact hitems
  | parent => exact hitems
  | anyElement => exact hitems
  | text => exact hitems

end Names

/-! ## 2. The same results

A query that succeeds has asked only for what is bound, so it is repeated in the larger registry step by step.  The five
lemmas are one induction over paths, steps and predicates. -/

theorem gather_mono {f g : Address → Except Error (List Item)} (hfg : ∀ a found, f a = .ok found → g a = .ok found)
    {contexts : List Address} {items : List Item} (hitems : Select.gather f contexts = .ok items) :
    Select.gather g contexts = .ok items := by
  induction contexts generalizing items with
  | nil => exact hitems
  | cons a rest ih =>
    obtain ⟨here, hhere, hitems⟩ := bind_ok.mp hitems
    obtain ⟨more, hmore, hitems⟩ := bind_ok.mp hitems
    exact bind_ok.mpr ⟨here, hfg a here hhere, bind_ok.mpr ⟨more, ih hmore, hitems⟩⟩

/-- A predicate keeps the same items if its path leads to the same from each of them. -/
theorem filterItems_ask_mono {f g : Item → Except Error (List Item)}
    (hfg : ∀ i found, f i = .ok found → g i = .ok found) {keep : List Item → Bool} {items kept : List Item}
    (hkept : Select.filterItems (fun i => return keep (← f i)) items = .ok kept) :
    Select.filterItems (fun i => return keep (← g i)) items = .ok kept := by
  induction items generalizing kept with
  | nil => exact hkept
  | cons i rest ih =>
    obtain ⟨here, hhere, hkept⟩ := bind_ok.mp hkept
    obtain ⟨found, hfound, hhere⟩ := bind_ok.mp hhere
    obtain ⟨more, hmore, hkept⟩ := bind_ok.mp hkept
    exact bind_ok.mpr ⟨here, bind_ok.mpr ⟨found, hfg i found hfound, hhere⟩, bind_ok.mpr ⟨more, ih hmore, hkept⟩⟩

mutual

theorem steps_of_extends (h : r.Extends r') : ∀ (ss : List Step) (items found : List Item),
    Select.steps d r ss items = .ok found → Select.steps d r' ss items = .ok found
  | [], _, _, hfound => by
    rw [Select.steps] at hfound ⊢
    exact hfound
  | s :: rest, _, found, hfound => by
    rw [Select.steps] at hfound ⊢
    obtain ⟨next, hnext, hfound⟩ := bind_ok.mp hfound
    exact bind_ok.mpr ⟨next, gather_mono (step_of_extends h s) hnext, steps_of_extends h rest _ found hfound⟩

theorem step_of_extends (h : r.Extends r') : ∀ (s : Step) (a : Address) (found : List Item),
    Select.step d r s a = .ok found → Select.step d r' s a = .ok found
  | ⟨_, _, predicates⟩, a, found, hfound => by
    rw [Select.step] at hfound ⊢
    split at hfound
    · rename_i items hitems
      rw [testItems_of_extends h hitems]
      exact filters_of_extends h predicates items found hfound
    · cases hfound

theorem filters_of_extends (h : r.Extends r') : ∀ (ps : List Predicate) (items found : List Item),
    Select.filters d r ps items = .ok found → Select.filters d r' ps items = .ok found
  | [], _, _, hfound => by
    rw [Select.filters] at hfound ⊢
    exact hfound
  | p :: rest, items, found, hfound => by
    rw [Select.filters] at hfound ⊢
    obtain ⟨kept, hkept, hfound⟩ := bind_ok.mp hfound
    exact bind_ok.mpr ⟨kept, filter_of_extends h p items kept hkept, filters_of_extends h rest kept found hfound⟩

theorem filter_of_extends (h : r.Extends r') : ∀ (p : Predicate) (items kept : List Item),
    Select.filter d r p items = .ok kept → Select.filter d r' p items = .ok kept
  | .position _, _, _, hkept => by
    rw [Select.filter] at hkept ⊢
    exact hkept
  | .exists p, _, _, hkept => by
    rw [Select.filter] at hkept ⊢
    exact filterItems_ask_mono (fromItem_of_extends h p) hkept
  | .equals p _, _, _, hkept => by
    rw [Select.filter] at hkept ⊢
    exact filterItems_ask_mono (fromItem_of_extends h p) hkept
  | .differs p _, _, _, hkept => by
    rw [Select.filter] at hkept ⊢
    exact filterItems_ask_mono (fromItem_of_extends h p) hkept

theorem fromItem_of_extends (h : r.Extends r') : ∀ (p : Path) (i : Item) (found : List Item),
    Select.fromItem d r p i = .ok found → Select.fromItem d r' p i = .ok found
  | ⟨_, ss⟩, .node _, found, hfound => by
    rw [Select.fromItem] at hfound ⊢
    exact steps_of_extends h ss _ found hfound
  | ⟨_, _⟩, .text _, _, hfound => by
    rw [Select.fromItem] at hfound ⊢
    exact hfound

end

/-! ## 3. Errors of queries

Together with `UsedPrefixes`, where errors are traced to the steps that they are about. -/

/-- **A query fails exactly if it comes to take a step whose prefix is not bound**, be it a step of the path or one in
a predicate at any depth, and its error tells such a step by its text, with the prefix.  So a query all of whose
prefixes are bound succeeds, and one that succeeds leads to the same under every larger registry. -/
theorem query_errors (d : Document) (r : Resolver) (context : Address) (p : Path) :
    (∀ e, d.select r context p = .error e →
      ∃ t ∈ p.allSteps, Select.StepsTake d r p.steps [.node context] t ∧
        ∃ used, t.test.usedPrefix? = some used ∧ r.namespaces.resolve used = none ∧
          e = .structuralQuery t.raw ⟨used, r.namespaces.prefixes⟩) ∧
    (∀ t used, Select.StepsTake d r p.steps [.node context] t → t.test.usedPrefix? = some used →
      r.namespaces.resolve used = none → ∃ e, d.select r context p = .error e) ∧
    (r.namespaces.Binds p → ∃ items, d.select r context p = .ok items) ∧
    ∀ r', r.Extends r' → ∀ items, d.select r context p = .ok items → d.select r' context p = .ok items := by
  refine ⟨fun e he => ?_, fun t used ht hused hnone => ?_, fun h => exists_select_of_binds h context,
    fun r' h items => steps_of_extends h p.steps [.node context] items⟩
  · obtain ⟨t, ht, hmisses⟩ := takes_of_steps p.steps [.node context] e he
    exact ⟨t, p.allSteps_eq ▸ mem_of_stepsTake ht, ht, hmisses⟩
  · exact exists_error_of_stepsTake ht ⟨used, hused, hnone, rfl⟩

namespace Sample

/-- The path `b[n:d]/c`, with a prefix that is used in a predicate alone. -/
def asking : Path :=
  ⟨"b[n:d]/c", ⟨"b[n:d]", .element ⟨none, "b"⟩, [.exists ⟨"n:d", steps [⟨some "n", "d"⟩]⟩]⟩ :: steps [⟨none, "c"⟩]⟩

/-- A resolver that binds the prefix, and one that binds another as well. -/
def binding : Resolver := ⟨.ofList [("n", "N")], ""⟩

def bindingMore : Resolver := ⟨.ofList [("m", "M"), ("n", "N")], ""⟩

theorem binding_extends : binding.Extends bindingMore where
  bindings p uri h := by
    have hn : p = "n" ∧ uri = "N" := by
      change List.lookup p [("n", "N")] = some uri at h
      rw [List.lookup_cons, List.lookup_nil] at h
      split at h
      · rename_i hp
        cases h
        exact ⟨by simpa using hp, rfl⟩
      · cases h
    obtain ⟨rfl, rfl⟩ := hn
    rfl
  defaultUri := rfl

end Sample

/-- Without the binding the error is about the step in the predicate; with it, the other binding makes no
difference. -/
theorem asking_errors :
    Sample.source.select ⟨.empty, ""⟩ [0] Sample.asking = .error (.structuralQuery "n:d" ⟨"n", []⟩) ∧
    (∃ t ∈ Sample.asking.allSteps, t.raw = "n:d" ∧ t.test.usedPrefix? = some "n") ∧
    Sample.binding.namespaces.Binds Sample.asking ∧ Sample.binding.Extends Sample.bindingMore ∧
    ∃ items, Sample.source.select Sample.binding [0] Sample.asking = .ok items ∧
      Sample.source.select Sample.bindingMore [0] Sample.asking = .ok items := by
  obtain ⟨herror, -, -, -⟩ := query_errors Sample.source ⟨.empty, ""⟩ [0] Sample.asking
  obtain ⟨-, -, hbound, hlarger⟩ := query_errors Sample.source Sample.binding [0] Sample.asking
  have hbinds : Sample.binding.namespaces.Binds Sample.asking := by decide
  refine ⟨rfl, ?_, hbinds, Sample.binding_extends, ?_⟩
  · obtain ⟨t, ht, -, used, hused, -, he⟩ := herror (.structuralQuery "n:d" ⟨"n", []⟩) rfl
    obtain ⟨hraw, hunbound⟩ := Error.structuralQuery.inj he
    exact ⟨t, ht, hraw.symm, hused.trans (congrArg some (UnboundPrefix.mk.inj hunbound).1.symm)⟩
  · obtain ⟨items, hitems⟩ := hbound hbinds
    exact ⟨items, hitems, hlarger Sample.bindingMore Sample.binding_extends items hitems⟩

end Regraft
