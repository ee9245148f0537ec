import Regraft.Proofs.Calls
import Regraft.Proofs.DocumentOrder
import Regraft.Proofs.Preservation
import Regraft.Proofs.Traced
/-!
# A rule renders what its source path selects

Matches of a step are paired with elements of the new document by position.  That no match is left without
an element, and none is rendered twice, comes from the elements that are made before: there are as many of
the name as there are matches, and the pairing finds them all.

* `Tells`: below the surplus of the destination, the sources visited are those that the steps of the source
  path lead to, in their order.
* `RepeatedAt`: the surplus of the destination repeats these visits in every element that its steps lead to
  in the document that is left.

`visits_eq_select` puts the two together, and both in the words of `Document.select`.
-/

namespace Regraft

open Xml (Address Document Node QName Tag)
open Edit (countNamed)
open Traced (visitsNamed)

/-! ## 1. Sources

The sources are told along the recursion of the descent.  Surplus steps of the source lead to several descents one after
the other.  Aligned steps pair sources with elements, of which there are enough, because they have just been made.  No
induction on the document is needed: what a descent visits is a matter of the source, as long as the edit succeeds. -/

/-- Wherever the traced edit succeeds, the sources that it visits are those that the steps lead to. -/
def Tells (d : Descent) (f : Traced) (steps : List Step) (contexts : List Address) : Prop :=
  ∀ c c', f.edit c = ⟨c', none⟩ →
    d.source.reach d.sourceNames steps contexts = .ok ((f.visits c).map Visit.source)

section Sources

variable {d : Descent} {k : Address → Traced} {steps : List Step} {c c' : List Node}

theorem tells_sequence (hk : ∀ m, Tells d (k m) steps [m]) (found : List Address) :
    Tells d (.sequence (found.map k)) steps found := by
  intro c c' h
  induction found generalizing c with
  | nil => exact reach_nil steps
  | cons m found ih =>
    obtain ⟨c₁, hm, hrest⟩ := Edit.andThen_eq_done.mp h
    rw [List.map_cons, Traced.sequence, Traced.visits_andThen hm, List.map_append]
    exact reach_append (hk m c c₁ hm) (ih c₁ hrest)

/-- Where there are enough elements, no edit that is paired with them is left out. -/
theorem reach_of_visitsNamed (hk : ∀ m, Tells d (k m) steps [m]) {q : QName} {found : List Address}
    (h : Edit.eachNamed q ((found.map k).map Traced.edit) c = ⟨c', none⟩)
    (hfound : found.length ≤ countNamed q c) (i : Nat) :
    d.source.reach d.sourceNames steps found =
      .ok ((visitsNamed q i (found.map k) c).map Visit.source) := by
  induction c using Edit.named_induction q generalizing found c' i with
  | nil =>
    rw [List.eq_nil_of_length_eq_zero (Nat.le_zero.mp hfound)]
    exact reach_nil steps
  | named tag content c hq ih =>
    rw [Edit.countNamed_cons_named hq] at hfound
    cases found with
    | nil => exact reach_nil steps
    | cons m found =>
      obtain ⟨content', rest', rfl, hm, hrest⟩ := (Edit.eachNamed_eq_done.mp h).named_inv hq
      have hsources : ((k m).visits content).map (Visit.source ∘ Visit.inside i) =
          ((k m).visits content).map Visit.source := rfl
      rw [List.map_cons, Traced.visitsNamed_named hq hm, List.map_append, List.map_map, hsources]
      exact reach_append (hk m content content' hm)
        (ih (Edit.eachNamed_eq_done.mpr hrest) (Nat.le_of_succ_le_succ hfound) (i + 1))
  | other n c hn ih =>
    rw [Edit.countNamed_cons_other hn] at hfound
    obtain ⟨rest', rfl, hrest⟩ := (Edit.eachNamed_eq_done.mp h).other_inv hn
    rw [Traced.visitsNamed_other hn]
    exact ih (Edit.eachNamed_eq_done.mpr hrest) hfound (i + 1)

theorem tells_pairing (hk : ∀ m, Tells d (k m) steps [m]) (q : QName) (found : List Address) :
    Tells d (.andThen (.silent (.pad q found.length)) (.eachNamed q (found.map k))) steps found := by
  intro c c' h
  have hpad : (Traced.silent (.pad q found.length)).edit c = ⟨padded q found.length c, none⟩ :=
    pad_eq q found.length c
  have hrest : Edit.eachNamed q ((found.map k).map Traced.edit) (padded q found.length c) = ⟨c', none⟩ :=
    (Edit.andThen_of_done hpad).symm.trans h
  rw [Traced.visits_andThen hpad]
  refine reach_of_visitsNamed hk hrest ?_ 0
  rw [countNamed_padded]
  exact Nat.le_max_left _ _

/-- One step and then what is told from each node that it leads to. -/
theorem tells_step {s : Step} {context : Address} {next : List Address → Traced}
    (hnext : ∀ found, Tells d (next found) steps found) :
    Tells d (.given (d.sources s context) next) (s :: steps) [context] := by
  intro c c' h
  rw [Traced.edit_given] at h
  obtain ⟨found, hfound, h⟩ := Edit.given_eq_done.mp h
  rw [hfound, Traced.given_ok]
  exact reach_cons_singleton hfound (hnext found c c' h)

theorem tells_alongAligned (pairs : List (Step × Waypoint)) (context : Address) :
    Tells d (d.alongAligned d.tracedRender pairs context) (pairs.map Prod.fst) [context] := by
  induction pairs generalizing context with
  | nil => exact fun _ _ _ => rfl
  | cons pair rest ih =>
    obtain ⟨s, w⟩ := pair
    refine tells_step fun found => ?_
    cases w with
    | here =>
      dsimp only
      split
      · exact fun _ _ h => (Edit.fail_ne_done h).elim
      · exact tells_sequence ih found
    | child name =>
      intro c c' h
      obtain ⟨q, hq, h⟩ := Edit.given_eq_done.mp ((congrFun (Traced.edit_given _ _) c).symm.trans h)
      dsimp only
      rw [hq]
      exact tells_pairing ih q found c c' h

theorem tells_alongSteps (hk : ∀ m, Tells d (k m) steps [m]) (surplus : List Step) (context : Address) :
    Tells d (d.alongSteps k surplus context) (surplus ++ steps) [context] := by
  induction surplus generalizing context with
  | nil => exact hk context
  | cons s rest ih => exact tells_step fun found => tells_sequence ih found

/-- What is below the surplus of the destination tells all steps of the source path. -/
theorem tells_alongSources (steps : List Step) (waypoints : List Waypoint) (context : Address) :
    Tells d (d.alongSources d.tracedRender (Route.ofPaths steps waypoints) context) steps [context] := by
  have h := tells_alongSteps (d := d) (tells_alongAligned (Route.ofPaths steps waypoints).aligned)
    (Route.ofPaths steps waypoints).surplusSteps context
  rw [surplusSteps_append_aligned] at h
  exact h

end Sources

/-! ## 2. Places

The places are told from the document that is left.  A surplus waypoint is followed in every element of its name that is
there then, those included that have been made for it; and in each of them the same sources are visited.  The order is
that of the elements, so the visits in one of them are complete before those in the next one begin. -/

/-- The visits are those of the sources `S`, made in every one of the places in turn, and no others. -/
inductive RepeatedAt (S : List Address) : List Address → List Visit → Prop
  | nil : RepeatedAt S [] []
  | cons {place : Address} {places : List Address} {here later : List Visit}
      (sources : here.map Visit.source = S) (inside : ∀ v ∈ here, place <+: v.place)
      (rest : RepeatedAt S places later) : RepeatedAt S (place :: places) (here ++ later)

theorem RepeatedAt.append {S places places' : List Address} {visits visits' : List Visit}
    (h : RepeatedAt S places visits) (h' : RepeatedAt S places' visits') :
    RepeatedAt S (places ++ places') (visits ++ visits') := by
  induction h with
  | nil => exact h'
  | cons sources inside _ ih =>
    rw [List.append_assoc]
    exact .cons sources inside ih

/-- In a single place the sources are visited once. -/
theorem RepeatedAt.sources_of_singleton {S : List Address} {place : Address} {visits : List Visit}
    (h : RepeatedAt S [place] visits) : visits.map Visit.source = S := by
  cases h with
  | cons sources _ rest =>
    cases rest
    rw [List.append_nil]
    exact sources

namespace Xml

theorem nodeAt?_concat (nodes : List Node) (i : Nat) (a : Address) (j : Nat) :
    nodeAt? nodes ((i :: a) ++ [j]) = (nodeAt? nodes (i :: a)).bind fun n => n.content[j]? := by
  induction a generalizing nodes i with
  | nil =>
    show nodeAt? nodes [i, j] = nodes[i]?.bind _
    rw [nodeAt?]
    · cases nodes[i]? <;> rfl
    · simp
  | cons i' a ih =>
    show nodeAt? nodes (i :: ((i' :: a) ++ [j])) = _
    rw [nodeAt?, nodeAt?]
    · cases nodes[i]? with
      | none => rfl
      | some n => exact ih n.content i'
    · simp
    · simp

/-- The children of a child. -/
theorem children_concat (d : Document) (a : Address) {i : Nat} {n : Node} (h : (d.children a)[i]? = some n) :
    d.children (a ++ [i]) = n.content := by
  cases a with
  | nil =>
    have hroot : d.node? [i] = some n := h
    rw [List.nil_append, Document.children, hroot]
    · rfl
    · simp
  | cons j a =>
    have hnode : d.node? ((j :: a) ++ [i]) = some n := by
      rw [Document.node?, nodeAt?_concat]
      cases hn : nodeAt? d.content (j :: a) with
      | none =>
        rw [Document.children, Document.node?, hn] at h
        · cases h
        · simp
      | some m =>
        rw [Document.children, Document.node?, hn] at h
        · exact h
        · simp
    rw [Document.children, hnode]
    · rfl
    · simp

end Xml

section Places

/-- The addresses of the elements of a name among nodes, the first of which is at position `i` below `a`. -/
def namedAt (q : QName) (a : Address) (i : Nat) (c : List Node) : List Address :=
  ((c.zipIdx i).filter fun n => n.1.isNamed q).map fun n => a ++ [n.2]

theorem namedAt_cons_named {q : QName} {n : Node} (hn : n.isNamed q = true) (a : Address) (i : Nat)
    (c : List Node) : namedAt q a i (n :: c) = (a ++ [i]) :: namedAt q a (i + 1) c := by
  unfold namedAt
  rw [List.zipIdx_cons, List.filter_cons, if_pos hn]
  rfl

theorem namedAt_cons_other {q : QName} {n : Node} (hn : n.isNamed q = false) (a : Address) (i : Nat)
    (c : List Node) : namedAt q a i (n :: c) = namedAt q a (i + 1) c := by
  unfold namedAt
  rw [List.zipIdx_cons, List.filter_cons, if_neg (by simp [hn])]

theorem selectNodes_of_here {s : Step} (hs : s.waypoint? = some .here) (d : Document) (r : Resolver)
    (a : Address) : d.selectNodes r a s = .ok [a] := by
  obtain ⟨raw, rfl⟩ := Step.waypoint?_eq_here.mp hs
  rw [Document.selectNodes, Select.step]
  rfl

theorem selectNodes_of_child {s : Step} {name : Name} (hs : s.waypoint? = some (.child name)) {r : Resolver}
    {q : QName} (hq : r.elementName name = .ok q) (d : Document) (a : Address) :
    d.selectNodes r a s = .ok (namedAt q a 0 (d.children a)) := by
  obtain ⟨raw, rfl⟩ := Step.waypoint?_eq_child.mp hs
  rw [Document.selectNodes, Select.step, Select.testItems, hq]
  have hnodes : Item.addresses (Select.childrenWhere d a (Node.isNamed q)) = namedAt q a 0 (d.children a) := by
    rw [addresses_childrenWhere, Document.addressedChildren, List.filter_map, List.map_map]
    rfl
  exact congrArg Except.ok hnodes

variable {S : List Address} {after : Document} {r : Resolver} {steps : List Step} {f : Traced}

/-- Visits made in all elements of a name are made in every place that the steps lead to from these. -/
theorem repeatedAt_visitsNamed {q : QName}
    (hf : ∀ k k' b, f.edit k = ⟨k', none⟩ → after.children b = k' →
      ∃ places, after.reach r steps [b] = .ok places ∧ RepeatedAt S places ((f.visits k).map (.below b)))
    {a : Address} {i : Nat} {c c' : List Node} (h : EachNamed q (fun _ k k' => f.edit k = ⟨k', none⟩) c c')
    (hafter : ∀ j n, c'[j]? = some n → after.children (a ++ [i + j]) = n.content) :
    ∃ places, after.reach r steps (namedAt q a i c') = .ok places ∧
      RepeatedAt S places ((visitsNamed q i (List.replicate (countNamed q c) f) c).map (.below a)) := by
  have hshift : ∀ {i : Nat} {m : Node} {rest : List Node},
      (∀ j n, (m :: rest)[j]? = some n → after.children (a ++ [i + j]) = n.content) →
        ∀ j n, rest[j]? = some n → after.children (a ++ [i + 1 + j]) = n.content := by
    intro i m rest h j n hn
    rw [Nat.add_assoc, Nat.add_comm 1 j]
    exact h (j + 1) n hn
  induction c using Edit.named_induction q generalizing c' i with
  | nil =>
    cases h
    rw [Traced.visitsNamed_of_nil]
    exact ⟨[], reach_nil steps, .nil⟩
  | named tag k c hq ih =>
    obtain ⟨k', rest, rfl, hk, hrest⟩ := h.named_inv hq
    -- The visits in this element come first, and those in later ones after them.
    obtain ⟨here, hhere, hvisits⟩ := hf k k' (a ++ [i]) hk (hafter 0 _ rfl)
    obtain ⟨later, hlater, hvisits'⟩ := ih hrest (hshift hafter)
    have hbelow : ((f.visits k).map (Visit.inside i)).map (Visit.below a) =
        (f.visits k).map (Visit.below (a ++ [i])) := by
      rw [List.map_map]
      exact List.map_congr_left fun v _ => v.below_inside a i
    refine ⟨here ++ later, ?_, ?_⟩
    · rw [namedAt_cons_named (Edit.isNamed_of_name hq k')]
      exact reach_append hhere hlater
    · rw [Edit.countNamed_cons_named hq, List.replicate_succ, Traced.visitsNamed_named hq hk,
        List.map_append, hbelow]
      exact hvisits.append hvisits'
  | other n c hn ih =>
    obtain ⟨rest, rfl, hrest⟩ := h.other_inv hn
    rw [namedAt_cons_other hn, Edit.countNamed_cons_other hn, Traced.visitsNamed_other hn]
    exact ih hrest (hshift hafter)

/-- Waypoints lead to the elements that the steps that spell them select in the document that is left, and
in each of these the same is visited. -/
theorem repeatedAt_alongWaypoints {d : Descent}
    (hf : ∀ c c', f.edit c = ⟨c', none⟩ → (f.visits c).map Visit.source = S) {waypoints : List Waypoint}
    (hspelled : steps.map Step.waypoint? = waypoints.map some) {a : Address} {c c' : List Node}
    (h : (d.alongWaypoints f waypoints).edit c = ⟨c', none⟩) (hafter : after.children a = c') :
    ∃ places, after.reach d.root.resolver steps [a] = .ok places ∧
      RepeatedAt S places (((d.alongWaypoints f waypoints).visits c).map (.below a)) := by
  induction waypoints generalizing steps a c c' with
  | nil =>
    cases List.map_eq_nil_iff.mp hspelled
    have hinside : ∀ v ∈ (f.visits c).map (Visit.below a), a <+: v.place := by
      intro v hv
      obtain ⟨u, -, rfl⟩ := List.mem_map.mp hv
      exact List.prefix_append a u.place
    have hsources : ((f.visits c).map (Visit.below a)).map Visit.source = S := by
      rw [List.map_map]
      exact hf c c' h
    refine ⟨[a], rfl, ?_⟩
    rw [← List.append_nil (List.map _ _)]
    exact .cons hsources hinside .nil
  | cons w rest ih =>
    obtain ⟨s, steps, rfl⟩ : ∃ s steps', steps = s :: steps' := by
      cases steps with
      | nil => cases hspelled
      | cons s steps => exact ⟨s, steps, rfl⟩
    obtain ⟨hs, hrest⟩ := List.cons_eq_cons.mp hspelled
    cases w with
    | here =>
      obtain ⟨places, hplaces, hvisits⟩ := ih hrest h hafter
      exact ⟨places, reach_cons_singleton (selectNodes_of_here hs _ _ a) hplaces, hvisits⟩
    | child name =>
      obtain ⟨q, hq, h⟩ := Edit.given_eq_done.mp ((congrFun (Traced.edit_given _ _) c).symm.trans h)
      have hname : d.root.resolver.elementName name = .ok q := mapError_ok.mp hq
      have hpad : (Traced.silent (.pad q 1)).edit c = ⟨padded q 1 c, none⟩ := pad_eq q 1 c
      -- The elements visited are those of the padded content, so one that has just been made is among them.
      have hall := Edit.allNamed_done ((Edit.andThen_of_done hpad).symm.trans h)
      obtain ⟨places, hplaces, hvisits⟩ := repeatedAt_visitsNamed (i := 0)
        (fun k k' b hk hb => ih hrest hk hb) hall (fun j n hn => by
          rw [Nat.zero_add]
          exact Xml.children_concat after a (by rw [hafter]; exact hn))
      refine ⟨places, ?_, ?_⟩
      · refine reach_cons_singleton (selectNodes_of_child hs hname after a) ?_
        rw [hafter]
        exact hplaces
      · have hpadded : (d.alongWaypoints f (.child name :: rest)).visits c =
            (Traced.allNamed q (d.alongWaypoints f rest)).visits (padded q 1 c) := by
          rw [Descent.alongWaypoints, hq]
          exact Traced.visits_andThen hpad
        rw [hpadded]
        exact hvisits

/-- Waypoints lead to some element at least. -/
theorem exists_done_of_alongWaypoints {d : Descent} {waypoints : List Waypoint} {c c' : List Node}
    (h : (d.alongWaypoints f waypoints).edit c = ⟨c', none⟩) : ∃ c₁ c₂, f.edit c₁ = ⟨c₂, none⟩ := by
  rw [Descent.edit_alongWaypoints] at h
  induction waypoints generalizing c c' with
  | nil => exact ⟨c, c', h⟩
  | cons w rest ih =>
    cases w with
    | here => exact ih h
    | child name =>
      obtain ⟨q, -, h⟩ := Edit.given_eq_done.mp h
      have hall := (Edit.andThen_of_done (pad_eq q 1 c)).symm.trans h
      have hpos : 0 < countNamed q (padded q 1 c) := by
        rw [countNamed_padded]
        exact Nat.le_max_left 1 _
      obtain ⟨-, c₁, c₂, h₁⟩ := (Edit.allNamed_done hall).exists_of_pos hpos
      exact ih h₁

end Places

/-! ## 3. The whole rule

The two parts put together.  The visits are read off the descent itself, which takes what is done at its end as an
argument: rendering alone makes the edit, and rendering with a record of it makes the visits. -/

/-- The waypoints of a destination are as many as its steps. -/
theorem Destination.length_waypoints (d : Destination) : d.waypoints.length = d.path.length := by
  have h := congrArg List.length d.spelled
  rw [List.length_map, List.length_map] at h
  exact h.symm

/-- No step of a destination leads to the parent. -/
theorem Destination.test_ne_parent (d : Destination) : ∀ s ∈ d.path.steps, s.test ≠ .parent := by
  intro s hs htest
  have hmem : s.waypoint? ∈ d.waypoints.map some := by
    rw [← d.spelled]
    exact List.mem_map_of_mem hs
  obtain ⟨w, -, hw⟩ := List.mem_map.mp hmem
  obtain ⟨raw, test, predicates⟩ := s
  cases htest
  cases hw

namespace Rule

/-- The first steps of the destination of a rule, as many as it has more than the source path. -/
def surplus (rule : Rule) : List Step :=
  rule.destination.path.steps.take (rule.destination.path.length - rule.source.length)

theorem spelled_surplus (rule : Rule) :
    rule.surplus.map Step.waypoint? =
      (Route.ofPaths rule.source.steps rule.destination.waypoints).surplusWaypoints.map some := by
  rw [surplus, List.map_take, rule.destination.spelled, ← List.map_take, ← rule.destination.length_waypoints]
  rfl

theorem surplus_eq_nil {rule : Rule} (h : rule.destination.path.length ≤ rule.source.length) :
    rule.surplus = [] := by
  rw [surplus, Nat.sub_eq_zero_of_le h, List.take_zero]

theorem test_ne_parent_of_mem_surplus (rule : Rule) : ∀ s ∈ rule.surplus, s.test ≠ .parent :=
  fun s hs => rule.destination.test_ne_parent s (List.mem_of_mem_take hs)

end Rule

/-- **A rule renders what its source path selects, once in each place that the surplus of its destination
selects.**  The visits of a rule that succeeds are the nodes that the source path selects from the root of
the source, in document order and none of them twice.  They are repeated in every element that the surplus
selects in the document that the rule leaves, one element after the other, and nowhere else.  Most
destinations have no surplus, and that element is the root alone. -/
theorem visits_eq_select {r : Run} {rule : Rule} (hdown : ∀ s ∈ rule.source.steps, s.test ≠ .parent)
    (hok : (r.apply rule).2 = none) :
    (r.traced rule).edit r.content = ⟨(r.apply rule).1.content, none⟩ ∧
    ∃ items found,
      r.source.select (r.descent rule).sourceNames r.sourceRoot rule.source = .ok items ∧
      Select.steps (r.apply rule).1.document r.root.resolver rule.surplus [.node Run.documentRoot] =
        .ok found ∧
      (Item.addresses items).Pairwise (· < ·) ∧ (Item.addresses found).Pairwise (· < ·) ∧
      RepeatedAt (Item.addresses items) (Item.addresses found) (r.visits rule) ∧
      (rule.destination.path.length ≤ rule.source.length →
        (r.visits rule).map Visit.source = Item.addresses items) := by
  let d := r.descent rule
  let route := Route.ofPaths rule.source.steps rule.destination.waypoints
  have htraced : (r.traced rule).edit r.content = ⟨(r.apply rule).1.content, none⟩ :=
    (congrFun (d.edit_tracedFollow route r.sourceRoot) r.content).trans (Run.follow_of_apply hok)
  -- the sources, which are the same wherever the surplus of the destination leads
  have htells : Tells d (d.alongSources d.tracedRender route r.sourceRoot) rule.source.steps [r.sourceRoot] :=
    tells_alongSources rule.source.steps rule.destination.waypoints r.sourceRoot
  obtain ⟨c₁, c₂, hdone⟩ : ∃ c₁ c₂, (d.alongSources d.tracedRender route r.sourceRoot).edit c₁ = ⟨c₂, none⟩ :=
    exists_done_of_alongWaypoints htraced
  obtain ⟨items, hitems, haddresses, hitemsOrdered⟩ := select_of_reach hdown (htells c₁ c₂ hdone)
  have hsources : ∀ c c', (d.alongSources d.tracedRender route r.sourceRoot).edit c = ⟨c', none⟩ →
      ((d.alongSources d.tracedRender route r.sourceRoot).visits c).map Visit.source = Item.addresses items := by
    intro c c' h
    rw [haddresses]
    exact Except.ok.inj ((htells c c' h).symm.trans (htells c₁ c₂ hdone))
  -- the places
  have hroot : (r.apply rule).1.document.children Run.documentRoot = (r.apply rule).1.content := rfl
  obtain ⟨places, hplaces, hvisits⟩ :=
    repeatedAt_alongWaypoints (d := d) hsources rule.spelled_surplus htraced hroot
  obtain ⟨found, hfound, rfl, hfoundOrdered⟩ := select_of_reach rule.test_ne_parent_of_mem_surplus hplaces
  refine ⟨htraced, items, found, hitems, hfound, haddresses ▸ hitemsOrdered, hfoundOrdered, hvisits, ?_⟩
  intro hle
  rw [Rule.surplus_eq_nil hle] at hplaces
  rw [← Except.ok.inj hplaces] at hvisits
  exact hvisits.sources_of_singleton

/-- With two `p` there, each `b` is visited in the first of them and then in the second. -/
theorem visits_of_spreading :
    (∀ s ∈ Sample.spreading.source.steps, s.test ≠ .parent) ∧
      ((Sample.run [Sample.element "p" [], Sample.element "p" []]).apply Sample.spreading).2 = none ∧
      RepeatedAt [[0, 0], [0, 1]] [[0, 0], [0, 1]]
        ((Sample.run [Sample.element "p" [], Sample.element "p" []]).visits Sample.spreading) := by
  have hdown : ∀ s ∈ Sample.spreading.source.steps, s.test ≠ .parent := by decide
  have hok : ((Sample.run [Sample.element "p" [], Sample.element "p" []]).apply
      Sample.spreading).2 = none := by rfl
  obtain ⟨-, items, found, hitems, hfound, -, -, hvisits, -⟩ := visits_eq_select hdown hok
  cases hitems
  cases hfound
  exact ⟨hdown, hok, hvisits⟩

/-! ## Summary

**What is established.**  When a rule succeeds, what it has rendered are the nodes that its source path selects, all of
them, in document order, each once for every place that the surplus of the destination leads to.

**What is not.**  Paths with steps to the parent are excluded: they may lead to one node from two, and a descent goes
there twice where a query drops the repetition. -/

end Regraft
