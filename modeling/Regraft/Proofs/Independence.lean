import Regraft.Proofs.Calls
import Regraft.Proofs.Placing
import Regraft.Proofs.Preservation
/-!
# The result of a rule does not depend on the destination

Two destinations may have different elements at every step, so that a rule makes none in the one where it
makes many in the other.  The edits that it pairs with them are still the same: it makes enough elements for
all of them, and never more than one where it needs one.  So an edit is called `Uniform` if it fails on
every content with the same error, or on none, and every edit of a descent is shown to be uniform from its
parts.

`results_independent_of_destination` says what follows for runs: in any history, each rule fails exactly as
it does alone on a fresh destination.
-/

namespace Regraft

open Xml (Address Document Node QName Tag)
open Edit (countNamed)

/-! ## 1. Uniform edits

Whether an edit fails, and how, must not depend on the content.  Of a pairing it does not, as there are always enough
elements; of an edit of all elements it does not, as there is always one. -/

namespace Edit

/-- Whether and how the edit fails does not depend on the content. -/
def Uniform (f : Edit) : Prop := ∀ c₁ c₂, (f c₁).fault = (f c₂).fault

/-- The error of the first edit in a list that fails. -/
def firstFault (fs : List Edit) : Option Error := fs.findSome? fun f => (f []).fault

theorem fault_andThen_of_none {f g : Edit} {c : List Node} (h : (f c).fault = none) :
    (f.andThen g c).fault = (g (f c).content).fault := by
  have hf : f c = ⟨(f c).content, none⟩ := by rw [← h]
  rw [andThen_of_done hf]

theorem fault_andThen_of_some {f g : Edit} {c : List Node} {e : Error} (h : (f c).fault = some e) :
    (f.andThen g c).fault = some e := by
  have hf : f c = ⟨(f c).content, some e⟩ := by rw [← h]
  rw [andThen_of_fault hf]

theorem Uniform.andThen {f g : Edit} (hf : Uniform f) (hg : Uniform g) : Uniform (f.andThen g) := by
  intro c₁ c₂
  cases h : (f c₁).fault with
  | none => rw [fault_andThen_of_none h, fault_andThen_of_none ((hf c₂ c₁).trans h), hg]
  | some e => rw [fault_andThen_of_some h, fault_andThen_of_some ((hf c₂ c₁).trans h)]

/-- Where there are enough elements for all edits, the first edit that fails tells the error. -/
theorem fault_eachNamed {q : QName} {fs : List Edit} (hfs : ∀ f ∈ fs, Uniform f) {c : List Node}
    (hc : fs.length ≤ countNamed q c) : (eachNamed q fs c).fault = firstFault fs := by
  induction c using named_induction q generalizing fs with
  | nil =>
    rw [List.eq_nil_of_length_eq_zero (Nat.le_zero.mp hc)]
    rfl
  | named tag k c hq ih =>
    rw [countNamed_cons_named hq] at hc
    match fs with
    | [] => rfl
    | f :: fs =>
      have hsame : (f k).fault = (f []).fault := hfs f List.mem_cons_self k []
      have hrest := ih (fun g hg => hfs g (List.mem_cons_of_mem _ hg)) (Nat.le_of_succ_le_succ hc)
      cases hfault : (f []).fault with
      | none =>
        have hf : f k = ⟨(f k).content, none⟩ := by rw [← hfault, ← hsame]
        rw [eachNamed_named_done hq hf, firstFault, List.findSome?_cons, hfault]
        exact hrest
      | some e =>
        have hf : f k = ⟨(f k).content, some e⟩ := by rw [← hfault, ← hsame]
        rw [eachNamed_named_fault hq hf, firstFault, List.findSome?_cons, hfault]
  | other n c hn ih =>
    rw [countNamed_cons_other hn] at hc
    rw [eachNamed_other hn]
    exact ih hfs hc

/-- Edits for which elements are made where there are too few are uniform together. -/
theorem uniform_pairing {q : QName} {fs : List Edit} (hfs : ∀ f ∈ fs, Uniform f) :
    Uniform (pairing q fs) := by
  have hfault : ∀ c, (pairing q fs c).fault = firstFault fs := by
    intro c
    rw [pairing, andThen_of_done (pad_eq q fs.length c)]
    refine fault_eachNamed hfs ?_
    rw [countNamed_padded]
    exact Nat.le_max_left _ _
  exact fun c₁ c₂ => (hfault c₁).trans (hfault c₂).symm

/-- An edit for all elements of a name, of which there is at least one, fails as it does once. -/
theorem uniform_allNamed {q : QName} {f : Edit} (hf : Uniform f) :
    Uniform (.andThen (.pad q 1) (.allNamed q f)) := by
  have hfault : ∀ c, (andThen (pad q 1) (allNamed q f) c).fault = (f []).fault := by
    intro c
    have hpos : 0 < countNamed q (padded q 1 c) := by
      rw [countNamed_padded]
      exact Nat.le_max_left 1 _
    rw [andThen_of_done (pad_eq q 1 c), allNamed, fault_eachNamed
      (fun g hg => (List.mem_replicate.mp hg).2 ▸ hf) (Nat.le_of_eq List.length_replicate), firstFault,
      List.findSome?_replicate, if_neg (Nat.ne_of_gt hpos)]
  exact fun c₁ c₂ => (hfault c₁).trans (hfault c₂).symm

theorem uniform_place (root : Root) (text : String) : Uniform (.whole (Fragment.place root text)) := by
  intro c₁ c₂
  unfold whole
  rcases Fragment.place_cases root text with ⟨e, h⟩ | ⟨nodes, h⟩ | h | ⟨value, h⟩
  · rw [h, h]
  · rw [h, h]
  · rw [h, h]
  · rw [h, h]

theorem uniform_preserved : Preserved anyName Uniform where
  done := fun _ _ => rfl
  fail := fun _ _ _ => rfl
  andThen := Uniform.andThen
  pairing := fun _ => uniform_pairing
  allNamed := fun _ => uniform_allNamed

end Edit

theorem Descent.uniform_run (d : Descent) (sourceRoot : Address) : Edit.Uniform (d.run sourceRoot) := by
  intro c₁ c₂
  have hfollow : Edit.Uniform
      (d.follow (Route.ofPaths d.rule.source.steps d.rule.destination.waypoints) sourceRoot) :=
    follow_of_preserved Edit.uniform_preserved (fun _ _ _ => trivial) _ _
      fun _ text _ _ => Edit.uniform_place d.root text
  exact congrArg (Option.map (Error.inRule d.rule.display)) (hfollow c₁ c₂)

/-! ## 2. Runs

A rule is applied to whatever the run has built so far, and its result is that on an empty destination.  For several
rules the results are compared one by one, up to the first error where a list stops at it. -/

namespace Run

theorem result_withContent (r : Run) (c : List Node) (rule : Rule) :
    ((r.withContent c).apply rule).2 = (r.apply rule).2 :=
  (r.descent rule).uniform_run r.sourceRoot c r.content

theorem results_applyEach (r : Run) (rules : List Rule) :
    (r.applyEach rules).2 = rules.map fun rule => (r.apply rule).2 := by
  induction rules generalizing r with
  | nil => rfl
  | cons rule rest ih =>
    have hrest : ((r.apply rule).1.applyEach rest).2 = rest.map fun rule => (r.apply rule).2 := by
      rw [ih, apply_eq_withContent]
      exact List.map_congr_left fun later _ => r.result_withContent _ later
    exact congrArg ((r.apply rule).2 :: ·) hrest

theorem result_applyAll (r : Run) (rules : List Rule) :
    (r.applyAll rules).2 = rules.findSome? fun rule => (r.apply rule).2 := by
  induction rules generalizing r with
  | nil => rfl
  | cons rule rest ih =>
    cases hfault : (r.apply rule).2 with
    | none =>
      rw [applyAll_cons_of_none hfault, ih, List.findSome?_cons, hfault, apply_eq_withContent]
      exact congrArg (List.findSome? · rest) (funext fun later => r.result_withContent _ later)
    | some e => rw [applyAll_cons_of_some hfault, List.findSome?_cons, hfault]

end Run

/-- **The result of a rule does not depend on the destination.**  Take what a run starts with, and any other
run on the same source with the same description of the root, whatever its root contains and whatever it
was called to do before.  There every rule has the result that it has at the start, so rules applied one by
one, going on after failures, have the results that each has alone; and rules applied up to a failure stop
with the error of the first that fails alone. -/
theorem results_independent_of_destination {source : Document} {sourceRoot : Address}
    {names : Namespaces} {vocabulary : Vocabulary} {root : Root} {fresh : Run}
    (h : Run.start source sourceRoot names vocabulary root = .ok fresh)
    (tag : Tag) (content : List Node) (before : List Call) :
    let r := (Run.mk source sourceRoot names vocabulary root tag content).after before
    (∀ rule, (r.apply rule).2 = (fresh.apply rule).2) ∧
    (∀ rules, (r.applyEach rules).2 = rules.map fun rule => (fresh.apply rule).2) ∧
    (∀ rules, (r.applyAll rules).2 = rules.findSome? fun rule => (fresh.apply rule).2) := by
  intro r
  obtain ⟨rootTag, -, hfresh⟩ := bind_ok.mp h
  cases hfresh
  have hrule : ∀ rule, (r.apply rule).2 =
      ((Run.mk source sourceRoot names vocabulary root rootTag []).apply rule).2 := by
    intro rule
    have hr : r = (Run.mk source sourceRoot names vocabulary root tag content).withContent r.content :=
      Run.after_eq_withContent _ before
    rw [hr, Run.result_withContent]
    exact (Run.mk source sourceRoot names vocabulary root rootTag []).result_withContent content rule
  refine ⟨hrule, fun rules => ?_, fun rules => ?_⟩
  · rw [Run.results_applyEach]
    exact List.map_congr_left fun rule _ => hrule rule
  · rw [Run.result_applyAll]
    exact congrArg (List.findSome? · rules) (funext hrule)

/-- Neither what is built nor an earlier failure changes what becomes of a rule. -/
theorem results_after_failure :
    Run.start Sample.source [0] .empty .empty Sample.root = .ok (Sample.run []) ∧
      (((Sample.run [Sample.element "p" [.text "old"]]).after [.rule Sample.unbound]).applyEach
        [Sample.merging, Sample.unbound, Sample.merging]).2 =
          [none, some (.inRule Sample.unbound.display (.structuralQuery "n:p" ⟨"n", []⟩)), none] := by
  have hstart : Run.start Sample.source [0] .empty .empty Sample.root = .ok (Sample.run []) := rfl
  obtain ⟨-, heach, -⟩ := results_independent_of_destination hstart (.plain ⟨"", "r"⟩)
    [Sample.element "p" [.text "old"]] [.rule Sample.unbound]
  exact ⟨hstart, (heach [Sample.merging, Sample.unbound, Sample.merging]).trans rfl⟩

end Regraft
