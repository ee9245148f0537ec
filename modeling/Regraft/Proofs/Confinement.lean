import Regraft.Proofs.Independence
/-!
# Rules that write under different names commute

A rule whose destination begins with the name of an element reads and writes nothing in the root but the
elements of that name.  `Edit.Confined q f` says so of an edit: it leaves all other nodes as they are and
where they are, and does to the elements of the name what it would do if they were alone.  Everything that a
descent does from its first waypoint on is confined to the name of that waypoint (`confined_follow`).

Two such edits for different names do not see each other.  In which order they are made still shows: the
elements that the first one adds come before those that the second one adds.  So what `rules_commute` says
of the two documents is that for each name the elements are the same and in the same order, and that the
texts of the root are the same.
-/

namespace Regraft

open Xml (Address Node QName Tag)
open Edit (countNamed)

/-! ## 1. The elements of a name and the other nodes

A content is divided by a name into its elements of that name and all other nodes.  Two contents that agree on both
sides for every name have the same elements, though perhaps not in the same order among different names. -/

/-- The elements of a name in a content. -/
def named (q : QName) (c : List Node) : List Node := c.filter (Node.isNamed q)

/-- The nodes of a content that are no elements of a name. -/
def unnamed (q : QName) (c : List Node) : List Node := c.filter fun n => !n.isNamed q

section Named

variable {q q' : QName}

theorem named_cons_named {tag : Tag} (h : tag.name = q) (k c : List Node) :
    named q (.element tag k :: c) = .element tag k :: named q c :=
  List.filter_cons_of_pos (Edit.isNamed_of_name h k)

theorem named_cons_other {n : Node} (h : n.isNamed q = false) (c : List Node) :
    named q (n :: c) = named q c :=
  List.filter_cons_of_neg (by simp [h])

theorem unnamed_cons_named {tag : Tag} (h : tag.name = q) (k c : List Node) :
    unnamed q (.element tag k :: c) = unnamed q c :=
  List.filter_cons_of_neg (by simp [Edit.isNamed_of_name h k])

theorem unnamed_cons_other {n : Node} (h : n.isNamed q = false) (c : List Node) :
    unnamed q (n :: c) = n :: unnamed q c :=
  List.filter_cons_of_pos (by simp [h])

theorem countNamed_named (c : List Node) : countNamed q (named q c) = countNamed q c := by
  simp [countNamed, named, List.countP_filter]

theorem isNamed_of_ne (h : q' ≠ q) {n : Node} (hn : n.isNamed q' = true) : n.isNamed q = false := by
  have hname : n.name? = some q' := by simpa [Node.isNamed] using hn
  simp [Node.isNamed, hname, h]

/-- The elements of another name are among the nodes that are not of the name. -/
theorem named_unnamed (h : q' ≠ q) (c : List Node) : named q' (unnamed q c) = named q' c := by
  unfold named unnamed
  rw [List.filter_filter]
  refine List.filter_congr fun n _ => ?_
  cases hn : n.isNamed q' with
  | false => rfl
  | true => simp [isNamed_of_ne h hn]

/-- So are the nodes that are no elements. -/
theorem filter_unnamed (c : List Node) :
    (unnamed q c).filter (fun n => !n.isElement) = c.filter fun n => !n.isElement := by
  unfold unnamed
  rw [List.filter_filter]
  refine List.filter_congr fun n _ => ?_
  cases n with
  | element tag k => rfl
  | text v => rfl
  | comment v => rfl
  | instruction t d => rfl

theorem isNamed_emptyElement (q : QName) : (emptyElement q).isNamed q = true :=
  Edit.isNamed_of_name rfl []

theorem named_padded (n : Nat) (c : List Node) : named q (padded q n c) = padded q n (named q c) := by
  have hadded : named q (List.replicate (n - countNamed q c) (emptyElement q)) =
      List.replicate (n - countNamed q c) (emptyElement q) := by
    simp [named, isNamed_emptyElement]
  rw [padded, padded, countNamed_named, named, List.filter_append]
  exact congrArg (named q c ++ ·) hadded

theorem unnamed_padded (n : Nat) (c : List Node) : unnamed q (padded q n c) = unnamed q c := by
  simp [padded, unnamed, isNamed_emptyElement]

theorem leadingText_padded (n : Nat) (c : List Node) :
    Node.leadingText (padded q n c) = Node.leadingText c := by
  cases c with
  | nil =>
    rw [padded]
    cases n - countNamed q [] <;> rfl
  | cons m c => cases m <;> rfl

theorem unnamed_eq_of_eachNamed {R : Nat → List Node → List Node → Prop} {c c' : List Node}
    (h : EachNamed q R c c') : unnamed q c' = unnamed q c := by
  induction h with
  | nil => rfl
  | named hq _ _ ih => rw [unnamed_cons_named hq, unnamed_cons_named hq, ih]
  | other hn _ ih => rw [unnamed_cons_other hn, unnamed_cons_other hn, ih]

theorem leadingText_eq_of_eachNamed {R : Nat → List Node → List Node → Prop} {c c' : List Node}
    (h : EachNamed q R c c') : Node.leadingText c' = Node.leadingText c := by
  cases h with
  | nil => rfl
  | named _ _ _ => rfl
  | @other _ n _ _ _ _ => cases n <;> rfl

end Named

/-! ## 2. Confined edits

An edit is confined to a name if it commutes with this division.  The lemmas go through the ways in which edits are made
of edits; a failure on the way is kept as it is. -/

namespace Edit

/-- The edit does not touch what is not an element of the name, and what it does to the elements of the
name, and whether and how it fails, depends on these alone. -/
structure Confined (q : QName) (f : Edit) : Prop where
  unnamed : ∀ c, unnamed q (f c).content = unnamed q c
  leadingText : ∀ c, Node.leadingText (f c).content = Node.leadingText c
  alone : ∀ c, f (named q c) = ⟨named q (f c).content, (f c).fault⟩

namespace Confined

variable {q q₁ q₂ : QName} {f g : Edit}

theorem done : Confined q done where
  unnamed _ := rfl
  leadingText _ := rfl
  alone _ := rfl

theorem fail (e : Error) : Confined q (fail e) where
  unnamed _ := rfl
  leadingText _ := rfl
  alone _ := rfl

theorem andThen (hf : Confined q f) (hg : Confined q g) : Confined q (f.andThen g) := by
  -- the second edit is made on what the first leaves, or not at all
  have hcases : ∀ c, (f.andThen g c = f c ∧ f.andThen g (named q c) = f (named q c)) ∨
      (f.andThen g c = g (f c).content ∧ f.andThen g (named q c) = g (named q (f c).content)) := by
    intro c
    have halone := hf.alone c
    match hfc : f c with
    | ⟨c₁, none⟩ =>
      rw [hfc] at halone
      exact .inr ⟨andThen_of_done hfc, andThen_of_done halone⟩
    | ⟨c₁, some e⟩ =>
      rw [hfc] at halone
      exact .inl ⟨andThen_of_fault hfc, (andThen_of_fault halone).trans halone.symm⟩
  constructor
  · intro c
    rcases hcases c with ⟨h, -⟩ | ⟨h, -⟩
    · rw [h, hf.unnamed]
    · rw [h, hg.unnamed, hf.unnamed]
  · intro c
    rcases hcases c with ⟨h, -⟩ | ⟨h, -⟩
    · rw [h, hf.leadingText]
    · rw [h, hg.leadingText, hf.leadingText]
  · intro c
    rcases hcases c with ⟨h, h'⟩ | ⟨h, h'⟩
    · rw [h, h', hf.alone]
    · rw [h, h', hg.alone]

theorem sequence_map {α : Type} {k : α → Edit} (hk : ∀ a, Confined q (k a)) (as : List α) :
    Confined q (sequence (as.map k)) := by
  induction as with
  | nil => exact done
  | cons a as ih => exact (hk a).andThen ih

theorem given {α : Type} {r : Except Error α} {k : α → Edit} (hk : ∀ a, r = .ok a → Confined q (k a)) :
    Confined q (given r k) := by
  cases r with
  | ok a => exact hk a rfl
  | error e => exact fail e

theorem pad (n : Nat) : Confined q (pad q n) where
  unnamed c := by rw [pad_eq]; exact unnamed_padded n c
  leadingText c := by rw [pad_eq]; exact leadingText_padded n c
  alone c := by rw [pad_eq, pad_eq, named_padded]

/-- Whatever is paired with the elements of a name, nothing else is. -/
theorem eachNamed (fs : List Edit) : Confined q (eachNamed q fs) := by
  constructor
  · exact fun c => unnamed_eq_of_eachNamed (eachNamed_changes fs c)
  · exact fun c => leadingText_eq_of_eachNamed (eachNamed_changes fs c)
  · intro c
    induction c using named_induction q generalizing fs with
    | nil => rw [eachNamed_of_nil]; exact eachNamed_of_nil fs
    | named tag k c hq ih =>
      rw [named_cons_named hq]
      match fs with
      | [] => rw [eachNamed_nil, eachNamed_nil, named_cons_named hq]
      | f :: fs =>
        match hf : f k with
        | ⟨k', none⟩ =>
          rw [eachNamed_named_done hq hf, eachNamed_named_done hq hf, ih, named_cons_named hq]
        | ⟨k', some e⟩ => rw [eachNamed_named_fault hq hf, eachNamed_named_fault hq hf, named_cons_named hq]
    | other n c hn ih => rw [named_cons_other hn, eachNamed_other hn, ih, named_cons_other hn]

theorem allNamed (f : Edit) : Confined q (allNamed q f) := by
  have hsame : ∀ c, Edit.allNamed q f (named q c) =
      Edit.eachNamed q (List.replicate (countNamed q c) f) (named q c) := by
    intro c
    rw [Edit.allNamed, countNamed_named]
  exact ⟨fun c => (eachNamed _).unnamed c, fun c => (eachNamed _).leadingText c,
    fun c => (hsame c).trans ((eachNamed _).alone c)⟩

/-- The elements of other names stay as they are. -/
theorem named_of_ne (hf : Confined q₁ f) (h : q ≠ q₁) (c : List Node) :
    named q (f c).content = named q c := by
  rw [← named_unnamed h, hf.unnamed, named_unnamed h]

/-- **Edits confined to different names commute**, as far as the elements of each name are concerned. -/
theorem named_comm (hf : Confined q₁ f) (hg : Confined q₂ g) (hne : q₁ ≠ q₂) (q : QName) (c : List Node) :
    named q (g (f c).content).content = named q (f (g c).content).content := by
  have hown : ∀ {q : QName} {h : Edit}, Confined q h → ∀ c, named q (h c).content = (h (named q c)).content :=
    fun hh c => by rw [hh.alone]
  by_cases h₁ : q = q₁
  · subst h₁
    rw [hg.named_of_ne hne, hown hf, hown hf, hg.named_of_ne hne]
  by_cases h₂ : q = q₂
  · subst h₂
    rw [hown hg, hf.named_of_ne h₁, ← hown hg, hf.named_of_ne h₁]
  · rw [hg.named_of_ne h₂, hf.named_of_ne h₁, hf.named_of_ne h₁, hg.named_of_ne h₂]

/-- What is no element stays in any case. -/
theorem filter_not_isElement (hf : Confined q f) (c : List Node) :
    (f c).content.filter (fun n => !n.isElement) = c.filter fun n => !n.isElement := by
  rw [← filter_unnamed (q := q), hf.unnamed, filter_unnamed]

end Confined

end Edit

/-! ## 3. Descents

The first waypoint pads and pairs elements of its own name, and everything below happens inside these. -/

namespace Descent

open Edit (Confined)

variable {d : Descent} {q : QName} {name : Name} (hq : d.root.resolver.elementName name = .ok q)

include hq

theorem eq_of_resolve {q' : QName} (h : d.resolve name = .ok q') : q' = q :=
  Except.ok.inj ((mapError_ok.mp h).symm.trans hq)

theorem confined_alongAligned (s : Step) (rest : List (Step × Waypoint)) (context : Address) :
    Confined q (d.alongAligned d.render ((s, .child name) :: rest) context) := by
  refine .given fun found _ => .given fun q' hq' => ?_
  rw [eq_of_resolve hq hq']
  exact (Confined.pad _).andThen (.eachNamed _)

theorem confined_alongWaypoints (k : Edit) (rest : List Waypoint) :
    Confined q (d.alongWaypoints k (.child name :: rest)) := by
  refine .given fun q' hq' => ?_
  rw [eq_of_resolve hq hq']
  exact (Confined.pad 1).andThen (.allNamed _)

omit hq in
theorem confined_alongSteps {k : Address → Edit} (hk : ∀ context, Confined q (k context)) (steps : List Step)
    (context : Address) : Confined q (d.alongSteps k steps context) := by
  induction steps generalizing context with
  | nil => exact hk context
  | cons s rest ih => exact .given fun found _ => .sequence_map ih found

/-- A descent is confined to the name that its destination begins with. -/
theorem confined_follow (steps : List Step) (rest : List Waypoint) (context : Address) :
    Confined q (d.follow (Route.ofPaths steps (.child name :: rest)) context) := by
  by_cases hlen : steps.length ≤ rest.length
  · -- the destination is longer, so its first waypoint is a surplus one
    obtain ⟨n, hn⟩ : ∃ n, rest.length + 1 - steps.length = n + 1 := ⟨rest.length - steps.length, by omega⟩
    have hsurplus : (Route.ofPaths steps (.child name :: rest)).surplusWaypoints =
        .child name :: rest.take n := by
      simp only [Route.ofPaths, List.length_cons, hn, List.take_succ_cons]
    rw [follow, along, hsurplus]
    exact confined_alongWaypoints hq _ _
  · -- all waypoints are aligned, and the first with the first step that is not surplus
    obtain ⟨s, aligned, haligned⟩ : ∃ s aligned,
        (Route.ofPaths steps (.child name :: rest)).aligned = (s, .child name) :: aligned := by
      have hnone : rest.length + 1 - steps.length = 0 := by omega
      obtain ⟨s, more, hdrop⟩ : ∃ s more, steps.drop (steps.length - (rest.length + 1)) = s :: more :=
        List.exists_cons_of_ne_nil (by simp only [ne_eq, List.drop_eq_nil_iff]; omega)
      refine ⟨s, more.zip rest, ?_⟩
      simp only [Route.ofPaths, List.length_cons, hnone, hdrop, List.drop_zero, List.zip_cons_cons]
    have hsurplus : (Route.ofPaths steps (.child name :: rest)).surplusWaypoints = [] := by
      simp only [Route.ofPaths, List.length_cons]
      rw [show rest.length + 1 - steps.length = 0 by omega, List.take_zero]
    rw [follow, along, alongSources, hsurplus, haligned]
    exact confined_alongSteps (fun m => confined_alongAligned hq s aligned m) _ context

theorem confined_run {rest : List Waypoint} (hrule : d.rule.destination.waypoints = .child name :: rest)
    (sourceRoot : Address) : Confined q (d.run sourceRoot) := by
  have h := confined_follow hq d.rule.source.steps rest sourceRoot
  rw [← hrule] at h
  refine ⟨h.unnamed, h.leadingText, fun c => ?_⟩
  rw [run, h.alone]
  rfl

end Descent

/-! ## 4. Two rules

Two rules, of which each has its own name.  Their results are compared and then the two documents, part by part. -/

/-- **Rules under different names commute.**  Let the destinations of two rules begin with names of elements
that stand for different qualified names.  Applied one after the other in either order, whether they fail or
not, each has the same result as in the other order.  In the two documents the elements of every name in the
root are the same, with all that is in them and in the same order; so are the nodes in the root that are no
elements, the text of the root, and its tag. -/
theorem rules_commute {r : Run} {rule₁ rule₂ : Rule} {name₁ name₂ : Name} {rest₁ rest₂ : List Waypoint}
    {q₁ q₂ : QName} (h₁ : rule₁.destination.waypoints = .child name₁ :: rest₁)
    (h₂ : rule₂.destination.waypoints = .child name₂ :: rest₂)
    (hq₁ : r.root.resolver.elementName name₁ = .ok q₁) (hq₂ : r.root.resolver.elementName name₂ = .ok q₂)
    (hne : q₁ ≠ q₂) :
    let first := r.apply rule₁
    let second := r.apply rule₂
    let firstLater := second.1.apply rule₁
    let secondLater := first.1.apply rule₂
    firstLater.2 = first.2 ∧ secondLater.2 = second.2 ∧
    (∀ q, named q secondLater.1.content = named q firstLater.1.content) ∧
    secondLater.1.content.filter (fun n => !n.isElement) =
      firstLater.1.content.filter (fun n => !n.isElement) ∧
    Node.leadingText secondLater.1.content = Node.leadingText firstLater.1.content ∧
    secondLater.1.tag = firstLater.1.tag := by
  intro first second firstLater secondLater
  have hf : Edit.Confined q₁ ((r.descent rule₁).run r.sourceRoot) := Descent.confined_run hq₁ h₁ _
  have hg : Edit.Confined q₂ ((r.descent rule₂).run r.sourceRoot) := Descent.confined_run hq₂ h₂ _
  refine ⟨r.result_withContent _ rule₁, r.result_withContent _ rule₂, fun q => ?_, ?_, ?_, rfl⟩
  · exact hf.named_comm hg hne q r.content
  · exact (hg.filter_not_isElement _).trans ((hf.filter_not_isElement _).trans
      ((hg.filter_not_isElement _).symm.trans (hf.filter_not_isElement _).symm))
  · exact (hg.leadingText _).trans ((hf.leadingText _).trans
      ((hg.leadingText _).symm.trans (hf.leadingText _).symm))

/-- A rule that fails on its way makes the same `s` before and after another that writes into `p`. -/
theorem merging_commutes_with_halting :
    Sample.mixed.root.resolver.elementName ⟨none, "p"⟩ = .ok ⟨"", "p"⟩ ∧
    Sample.mixed.root.resolver.elementName ⟨none, "s"⟩ = .ok ⟨"", "s"⟩ ∧
    (⟨"", "p"⟩ : QName) ≠ ⟨"", "s"⟩ ∧
    ((Sample.mixed.apply Sample.halting).1.apply Sample.merging).2 = none ∧
    ((Sample.mixed.apply Sample.merging).1.apply Sample.halting).2 =
      some (.inRule Sample.halting.display (.structuralQuery "n:c" ⟨"n", []⟩)) ∧
    (∀ q, named q ((Sample.mixed.apply Sample.merging).1.apply Sample.halting).1.content =
      named q ((Sample.mixed.apply Sample.halting).1.apply Sample.merging).1.content) ∧
    Node.leadingText ((Sample.mixed.apply Sample.merging).1.apply Sample.halting).1.content =
      Node.leadingText ((Sample.mixed.apply Sample.halting).1.apply Sample.merging).1.content := by
  have hne : (⟨"", "p"⟩ : QName) ≠ ⟨"", "s"⟩ := by decide
  have hmerging : (Sample.mixed.apply Sample.merging).2 = none := by rfl
  have hhalting : (Sample.mixed.apply Sample.halting).2 =
      some (.inRule Sample.halting.display (.structuralQuery "n:c" ⟨"n", []⟩)) := by rfl
  obtain ⟨hfirst, hsecond, hnamed, -, htext, -⟩ := @rules_commute Sample.mixed Sample.merging Sample.halting
    ⟨none, "p"⟩ ⟨none, "s"⟩ [] [.child ⟨none, "t"⟩] ⟨"", "p"⟩ ⟨"", "s"⟩ rfl rfl rfl rfl hne
  exact ⟨rfl, rfl, hne, hfirst.trans hmerging, hsecond.trans hhalting, hnamed, htext⟩

/-! ## Summary

**What is established.**  Two rules whose destinations begin with different names have the same results in either order,
and all elements, texts and other nodes are the same.  Nothing is assumed about the document, and either rule may fail.

**What is not.**  The documents are not the same text.  Elements are added behind those that are there, so those of the
rule that is applied first stand first. -/

end Regraft
