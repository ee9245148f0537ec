import Regraft.Proofs.Success
import Regraft.Select
/-!
# The nodes that steps lead to

`Document.reach` takes steps from a list of nodes all at once and keeps what each node leads to together, in
the order of the nodes.  A query does the same (`steps_of_reach`), but for steps to the parent, which it
takes to each node only once; and a descent, which takes all steps from one node before it comes to the
next, arrives at the same list, because what several nodes lead to is what each of them leads to
(`reach_append`).
-/

namespace Regraft

open Xml (Address Document)

/-- The nodes that steps lead to from `contexts`, step by step. -/
def Xml.Document.reach (d : Document) (r : Resolver) : List Step → List Address → Except Error (List Address)
  | [], contexts => .ok contexts
  | s :: rest, contexts => do
    let found ← contexts.mapM fun a => d.selectNodes r a s
    d.reach r rest found.flatten

variable {d : Document} {r : Resolver}

theorem reach_cons_ok {s : Step} {rest : List Step} {contexts reached : List Address} :
    d.reach r (s :: rest) contexts = .ok reached ↔
      ∃ found, contexts.mapM (fun a => d.selectNodes r a s) = .ok found ∧
        d.reach r rest found.flatten = .ok reached :=
  bind_ok

theorem reach_cons_singleton {s : Step} {rest : List Step} {a : Address} {found reached : List Address}
    (hfound : d.selectNodes r a s = .ok found) (hreached : d.reach r rest found = .ok reached) :
    d.reach r (s :: rest) [a] = .ok reached :=
  reach_cons_ok.mpr ⟨[found], mapM_cons_ok.mpr ⟨found, [], hfound, rfl, rfl⟩, by
    rw [List.flatten_singleton]
    exact hreached⟩

theorem reach_nil (steps : List Step) : d.reach r steps [] = .ok [] := by
  induction steps with
  | nil => rfl
  | cons s rest ih => exact reach_cons_ok.mpr ⟨[], rfl, ih⟩

/-- What several nodes lead to is what each of them leads to. -/
theorem reach_append {steps : List Step} {contexts contexts' reached reached' : List Address}
    (h : d.reach r steps contexts = .ok reached) (h' : d.reach r steps contexts' = .ok reached') :
    d.reach r steps (contexts ++ contexts') = .ok (reached ++ reached') := by
  induction steps generalizing contexts contexts' with
  | nil =>
    cases h
    cases h'
    rfl
  | cons s rest ih =>
    obtain ⟨found, hfound, h⟩ := reach_cons_ok.mp h
    obtain ⟨found', hfound', h'⟩ := reach_cons_ok.mp h'
    refine reach_cons_ok.mpr ⟨found ++ found', ?_, ?_⟩
    · exact mapM_append_ok.mpr ⟨found, found', hfound, hfound', rfl⟩
    · rw [List.flatten_append]
      exact ih h h'

/-- A query gathers what a step leads to from several nodes in their order. -/
theorem gather_of_mapM {f : Address → Except Error (List Item)} {contexts : List Address}
    {found : List (List Address)} (h : contexts.mapM (fun a => (f a).map Item.addresses) = .ok found) :
    ∃ items, Select.gather f contexts = .ok items ∧ Item.addresses items = found.flatten := by
  induction contexts generalizing found with
  | nil =>
    cases mapM_nil_ok.mp h
    exact ⟨[], rfl, rfl⟩
  | cons a contexts ih =>
    obtain ⟨m, ms, hm, hms, rfl⟩ := mapM_cons_ok.mp h
    obtain ⟨here, hhere, rfl⟩ := map_ok.mp hm
    obtain ⟨more, hmore, haddresses⟩ := ih hms
    refine ⟨here ++ more, ?_, ?_⟩
    · exact bind_ok.mpr ⟨here, hhere, bind_ok.mpr ⟨more, hmore, rfl⟩⟩
    · rw [Item.addresses, List.filterMap_append, List.flatten_cons, ← haddresses]
      rfl

/-- A query without steps to the parent leads to the nodes that its steps reach. -/
theorem steps_of_reach {steps : List Step} (hdown : ∀ s ∈ steps, s.test ≠ .parent) {items : List Item}
    {reached : List Address} (h : d.reach r steps (Item.addresses items) = .ok reached) :
    ∃ items', Select.steps d r steps items = .ok items' ∧ Item.addresses items' = reached := by
  induction steps generalizing items with
  | nil => exact ⟨items, by rw [Select.steps], Except.ok.inj h⟩
  | cons s rest ih =>
    obtain ⟨found, hfound, h⟩ := reach_cons_ok.mp h
    obtain ⟨next, hnext, haddresses⟩ := gather_of_mapM hfound
    rw [← haddresses] at h
    obtain ⟨items', hitems', hreached⟩ := ih (fun t ht => hdown t (List.mem_cons_of_mem _ ht)) h
    refine ⟨items', ?_, hreached⟩
    rw [Select.steps]
    refine bind_ok.mpr ⟨next, hnext, ?_⟩
    rw [if_neg (hdown s List.mem_cons_self)]
    exact hitems'

end Regraft
