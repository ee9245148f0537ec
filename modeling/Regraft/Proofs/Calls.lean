import Regraft.Run
/-!
# Histories of a run

A run is called to apply one rule or several, in any order and whatever came of the calls before.  A history
is a list of such calls; `Run.after` is the run that it leaves.  No call touches anything but the content of
the root, so all that a history changes is that content.
-/

namespace Regraft

open Xml (Document Node)

/-- What a run can be called to do. -/
inductive Call where
  /-- Apply one rule. -/
  | rule (rule : Rule)
  /-- Apply rules in order, up to the first that fails. -/
  | rules (rules : List Rule)

/-- The rules that a call applies. -/
def Call.toList : Call → List Rule
  | .rule one => [one]
  | .rules several => several

namespace Run

/-- One call. -/
def call (r : Run) : Call → Run × Option Error
  | .rule rule => r.apply rule
  | .rules rules => r.applyAll rules

/-- The run that calls leave, each made whatever came of those before it. -/
def after (r : Run) : List Call → Run
  | [] => r
  | c :: rest => (r.call c).1.after rest

/-- Applies rules one by one and goes on after failures; the result of each rule is kept. -/
def applyEach (r : Run) : List Rule → Run × List (Option Error)
  | [] => (r, [])
  | rule :: rest =>
    let (r, result) := r.apply rule
    let (r, results) := r.applyEach rest
    (r, result :: results)

/-- The run with another content of the root. -/
def withContent (r : Run) (content : List Node) : Run := { r with content }

/-- A rule that succeeds is a descent that succeeds. -/
theorem follow_of_apply {r : Run} {rule : Rule} (h : (r.apply rule).2 = none) :
    (r.descent rule).follow (Route.ofPaths rule.source.steps rule.destination.waypoints) r.sourceRoot
      r.content = ⟨(r.apply rule).1.content, none⟩ := by
  have hfault : ((r.descent rule).follow (Route.ofPaths rule.source.steps rule.destination.waypoints)
      r.sourceRoot r.content).fault = none := Option.map_eq_none_iff.mp h
  rw [← hfault]
  rfl

theorem apply_eq_withContent (r : Run) (rule : Rule) :
    (r.apply rule).1 = r.withContent (r.apply rule).1.content := rfl

theorem applyAll_cons_of_none {r : Run} {rule : Rule} (h : (r.apply rule).2 = none) (rest : List Rule) :
    r.applyAll (rule :: rest) = (r.apply rule).1.applyAll rest := by
  rw [applyAll]
  split
  · rename_i r' hr
    rw [hr]
  · rename_i hfailed
    exact (hfailed (r.apply rule).1 (Prod.ext rfl h)).elim

theorem applyAll_cons_of_some {r : Run} {rule : Rule} {e : Error} (h : (r.apply rule).2 = some e)
    (rest : List Rule) : r.applyAll (rule :: rest) = r.apply rule := by
  rw [applyAll]
  split
  · rename_i r' hr
    rw [hr] at h
    cases h
  · rfl

/-- What each rule of some calls keeps, the calls keep. -/
theorem after_induction_of_mem {P : Run → Prop} {calls : List Call}
    (hP : ∀ rule ∈ calls.flatMap Call.toList, ∀ r, P r → P (r.apply rule).1) {r : Run} (h : P r) :
    P (r.after calls) := by
  have hall : ∀ (rules : List Rule), (∀ rule ∈ rules, ∀ r, P r → P (r.apply rule).1) →
      ∀ r, P r → P (r.applyAll rules).1 := by
    intro rules
    induction rules with
    | nil => exact fun _ r hr => hr
    | cons rule rest ih =>
      intro hrules r hr
      obtain ⟨hrule, hrest⟩ := List.forall_mem_cons.mp hrules
      cases hfault : (r.apply rule).2 with
      | none =>
        rw [applyAll_cons_of_none hfault]
        exact ih hrest _ (hrule r hr)
      | some e =>
        rw [applyAll_cons_of_some hfault]
        exact hrule r hr
  induction calls generalizing r with
  | nil => exact h
  | cons c rest ih =>
    have hcall : ∀ rule ∈ c.toList, ∀ r, P r → P (r.apply rule).1 := fun rule hrule =>
      hP rule (List.mem_flatMap.mpr ⟨c, List.mem_cons_self, hrule⟩)
    have hrest : ∀ rule ∈ rest.flatMap Call.toList, ∀ r, P r → P (r.apply rule).1 := fun rule hrule =>
      hP rule (by rw [List.flatMap_cons]; exact List.mem_append_right _ hrule)
    cases c with
    | rule rule => exact ih hrest (hcall rule List.mem_cons_self r h)
    | rules rules => exact ih hrest (hall rules hcall r h)

/-- What single rules keep, all calls keep. -/
theorem after_induction {P : Run → Prop} (hP : ∀ r rule, P r → P (r.apply rule).1) {r : Run} (h : P r)
    (calls : List Call) : P (r.after calls) :=
  after_induction_of_mem (fun rule _ r => hP r rule) h

theorem after_eq_withContent (r : Run) (calls : List Call) :
    r.after calls = r.withContent (r.after calls).content :=
  after_induction (P := fun r' => r' = r.withContent r'.content)
    (fun r' rule hr' => by rw [apply_eq_withContent]; rw [hr']; rfl) rfl calls

/-- What the descents of the rules of some calls keep of the content, the calls keep. -/
theorem content_after_induction {P : List Node → Prop} {r : Run} {calls : List Call}
    (hP : ∀ rule ∈ calls.flatMap Call.toList, ∀ c, P c → P ((r.descent rule).follow
      (Route.ofPaths rule.source.steps rule.destination.waypoints) r.sourceRoot c).content)
    (h : P r.content) : P (r.after calls).content := by
  have hafter : r.after calls = r.withContent (r.after calls).content ∧ P (r.after calls).content := by
    refine after_induction_of_mem (P := fun r' => r' = r.withContent r'.content ∧ P r'.content)
      (fun rule hrule r' hr' => ?_) ⟨rfl, h⟩
    obtain ⟨hsame, hcontent⟩ := hr'
    refine ⟨by rw [apply_eq_withContent, hsame]; rfl, ?_⟩
    have hnext := hP rule hrule r'.content hcontent
    rw [hsame]
    exact hnext
  exact hafter.2

end Run

/-! ## A small run -/

namespace Sample

/-- An element in no namespace. -/
def element (name : String) (content : List Node) : Node := .element (.plain ⟨"", name⟩) content

/-- The source `<a><b><c>x</c><c>y</c></b><b><c>z</c></b></a>`. -/
def source : Document :=
  ⟨[element "a" [
    element "b" [element "c" [.text "x"], element "c" [.text "y"]],
    element "b" [element "c" [.text "z"]]]]⟩

/-- A root `r` without namespaces. -/
def root : Root := ⟨"r", none, .empty, .empty⟩

/-- A run on the source with some content built. -/
def run (content : List Node) : Run := ⟨source, [0], .empty, .empty, root, .plain ⟨"", "r"⟩, content⟩

/-- The steps to child elements of some names. -/
def steps (names : List Name) : List Step := names.map fun n => ⟨n.display, .element n, []⟩

theorem spelled (names : List Name) :
    (steps names).map Step.waypoint? = (names.map Waypoint.child).map some := by
  rw [steps, List.map_map, List.map_map]
  rfl

/-- The rule that copies the texts of the elements that one path leads to into those that another leads to. -/
def rule (destination source : List Name) : Rule :=
  ⟨⟨⟨"", steps destination⟩, destination.map Waypoint.child, spelled destination⟩, ⟨"", steps source⟩,
    [⟨".", [⟨".", .here, []⟩]⟩], ⟨"%s", [.slot]⟩, .passThrough, rfl⟩

/-- From `b/c` to `p`: the first `c` of every `b` goes to the first `p`. -/
def merging : Rule := rule [⟨none, "p"⟩] [⟨none, "b"⟩, ⟨none, "c"⟩]

/-- From `b` to `p/q`: every `p` gets a `q` for each `b`. -/
def spreading : Rule := rule [⟨none, "p"⟩, ⟨none, "q"⟩] [⟨none, "b"⟩]

/-- From `b` to `n:p`, a prefix that is bound to nothing. -/
def unbound : Rule := rule [⟨some "n", "p"⟩] [⟨none, "b"⟩]

/-- From `b/n:c` to `s/t`, which fails after it has made an `s` for each `b`. -/
def halting : Rule := rule [⟨none, "s"⟩, ⟨none, "t"⟩] [⟨none, "b"⟩, ⟨some "n", "c"⟩]

/-- A run that has built a text, an `s` and a `p`. -/
def mixed : Run := run [.text "old", element "s" [], element "p" []]

end Sample

end Regraft
