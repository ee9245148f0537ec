import Regraft.Proofs.Calls
import Regraft.Proofs.Pairing
import Regraft.Proofs.Reach
/-!
# What a rule amounts to

The descent goes depth first: it takes one source context at a time down to its end, and comes back to the
same element of the new document once for every context that leads to it.  `Descent.meaning` says what
that amounts to without an order of visits.  It goes down the new document alone, and each element carries
the list of all source contexts that lead to it.

* Surplus steps lead to contexts (`Document.reach`), and all of these arrive at the root.
* `Descent.spread` takes surplus waypoints to every element of their name.
* `Descent.meet` goes down the aligned part: the `i`-th element of a name receives the `i`-th match of every
  context that has one.

`meaning_of_apply`: a rule that succeeds leaves the document that its meaning gives.  The step that
carries the proof is `eachNamed_of_sequence`, that pairings one after the other, each with its own padding,
are one pairing after one padding.
-/

namespace Regraft

open Xml (Address Document Node QName Tag)
open Edit (countNamed sequence)

/-! ## 1. The meaning of a rule

The specification.  It has the shape of the new document, not that of a run: one recursion down the waypoints, with a
list of contexts at every element. -/

/-- A content with `f i` done to the content of the `i`-th element of a name, counted from zero. -/
def mapNamed (q : QName) (f : Nat → List Node → Except Error (List Node)) :
    List Node → Except Error (List Node)
  | [] => .ok []
  | .element tag content :: rest =>
    if tag.name = q then do
      let content ← f 0 content
      return .element tag content :: (← mapNamed q (fun i => f (i + 1)) rest)
    else do
      return .element tag content :: (← mapNamed q f rest)
  | n :: rest => do
    return n :: (← mapNamed q f rest)

/-- The length of the longest of some lists. -/
def widest {α : Type} (groups : List (List α)) : Nat := (groups.map List.length).foldr max 0

/-- What some lists have at a position, without those that are too short. -/
def column {α : Type} (groups : List (List α)) (i : Nat) : List α := groups.filterMap (·[i]?)

namespace Descent

/-- A content with what the template makes of a row placed in it. -/
def placeInto (d : Descent) (content : List Node) (row : List String) : Except Error (List Node) := do
  match ← d.renderRow row with
  | some rendered => Fragment.place d.root rendered content
  | none => return content

/-- A content with the rows of a context placed in it one after the other. -/
def renderInto (d : Descent) (content : List Node) (context : Address) : Except Error (List Node) := do
  let rows ← d.rows context
  rows.foldlM d.placeInto content

/-- What becomes of the content of an element to which all of `contexts` lead. -/
def meet (d : Descent) : List (Step × Waypoint) → List Address → List Node → Except Error (List Node)
  | [], contexts, content => contexts.foldlM d.renderInto content
  | _ :: _, [], content => .ok content
  | (s, w) :: rest, contexts, content => do
    let found ← contexts.mapM (d.sources s)
    match w with
    | .here => d.meet rest found.flatten content
    | .child name =>
      let q ← d.resolve name
      mapNamed q (fun i => d.meet rest (column found i)) (padded q (widest found) content)

/-- What becomes of a content if `f` is done in every element that waypoints lead to, one being added where
there is none. -/
def spread (d : Descent) (f : List Node → Except Error (List Node)) :
    List Waypoint → List Node → Except Error (List Node)
  | [], content => f content
  | .here :: rest, content => d.spread f rest content
  | .child name :: rest, content => do
    let q ← d.resolve name
    mapNamed q (fun _ => d.spread f rest) (padded q 1 content)

/-- What becomes of the content of the root. -/
def meaning (d : Descent) (sourceRoot : Address) (content : List Node) : Except Error (List Node) :=
  let route := Route.ofPaths d.rule.source.steps d.rule.destination.waypoints
  d.spread (fun content => do
    let contexts ← d.source.reach d.sourceNames route.surplusSteps [sourceRoot]
    d.meet route.aligned contexts content) route.surplusWaypoints content

end Descent

/-- The document that a rule makes of the one built so far. -/
def Run.meaning (r : Run) (rule : Rule) : Except Error Document := do
  let content ← (r.descent rule).meaning r.sourceRoot r.content
  return ⟨[.element r.tag content]⟩

/-! ## 2. Both sides as changes of elements

A pairing and a padding as relations between contents, so that two ways of doing the same can be compared element by
element. -/

theorem mapNamed_named {q : QName} {f : Nat → List Node → Except Error (List Node)} {tag : Tag}
    {k c x : List Node} (hq : tag.name = q) :
    mapNamed q f (.element tag k :: c) = .ok x ↔
      ∃ k' c', f 0 k = .ok k' ∧ mapNamed q (fun i => f (i + 1)) c = .ok c' ∧
        x = .element tag k' :: c' := by
  rw [mapNamed, if_pos hq, bind_ok]
  constructor
  · rintro ⟨k', hk, h⟩
    obtain ⟨c', hc, h⟩ := bind_ok.mp h
    exact ⟨k', c', hk, hc, (Except.ok.inj h).symm⟩
  · rintro ⟨k', c', hk, hc, rfl⟩
    exact ⟨k', hk, bind_ok.mpr ⟨c', hc, rfl⟩⟩

theorem mapNamed_other {q : QName} {f : Nat → List Node → Except Error (List Node)} {n : Node}
    {c x : List Node} (hn : n.isNamed q = false) :
    mapNamed q f (n :: c) = .ok x ↔ ∃ c', mapNamed q f c = .ok c' ∧ x = n :: c' := by
  have hcons : mapNamed q f (n :: c) = (mapNamed q f c >>= fun c' => .ok (n :: c')) := by
    cases n with
    | element tag k =>
      rw [Edit.isNamed_element] at hn
      rw [mapNamed, if_neg (of_decide_eq_false hn)]
      rfl
    | text v => rfl
    | comment v => rfl
    | instruction t d => rfl
  rw [hcons, bind_ok]
  exact ⟨fun ⟨c', hc, h⟩ => ⟨c', hc, (Except.ok.inj h).symm⟩, fun ⟨c', hc, h⟩ => ⟨c', hc, by rw [h]⟩⟩

theorem mapNamed_eq_ok {q : QName} {f : Nat → List Node → Except Error (List Node)} {c c' : List Node} :
    mapNamed q f c = .ok c' ↔ EachNamed q (fun i k k' => f i k = .ok k') c c' := by
  induction c using Edit.named_induction q generalizing f c' with
  | nil =>
    exact ⟨fun h => by cases h; exact .nil, fun h => by cases h; rfl⟩
  | named tag k c hq ih =>
    rw [mapNamed_named hq]
    constructor
    · rintro ⟨k', c₁, hk, hc, rfl⟩
      exact .named hq hk (ih.mp hc)
    · intro h
      obtain ⟨k', c₁, rfl, hk, hc⟩ := h.named_inv hq
      exact ⟨k', c₁, hk, ih.mpr hc, rfl⟩
  | other n c hn ih =>
    rw [mapNamed_other hn]
    constructor
    · rintro ⟨c₁, hc, rfl⟩
      exact .other hn (ih.mp hc)
    · intro h
      obtain ⟨c₁, rfl, hc⟩ := h.other_inv hn
      exact ⟨c₁, ih.mpr hc, rfl⟩

theorem column_cons {α : Type} (as : List α) (groups : List (List α)) (i : Nat) :
    column (as :: groups) i = as[i]?.toList ++ column groups i := by
  unfold column
  rw [List.filterMap_cons]
  cases as[i]? <;> rfl

theorem paired_map {α : Type} {k : α → Edit} {as : List α} {i : Nat} {c c' : List Node} :
    Edit.Paired (as.map k) i c c' ↔ sequence (as[i]?.toList.map k) c = ⟨c', none⟩ := by
  unfold Edit.Paired
  rw [List.getD_eq_getElem?_getD, List.getElem?_map]
  cases as[i]? with
  | none => exact Iff.rfl
  | some a =>
    refine Iff.trans ?_ Edit.sequence_cons_eq_done.symm
    exact ⟨fun h => ⟨c', h, rfl⟩, fun ⟨c₁, h, h'⟩ => by rw [Edit.sequence_nil_eq_done.mp h']; exact h⟩

/-- **Pairings one after the other are one pairing.**  Elements added for a later one may be added before
the first, and each element then gets all edits of its column in sequence. -/
theorem eachNamed_of_sequence {α : Type} {q : QName} {k : α → Edit} {groups : List (List α)}
    {c c' : List Node}
    (h : sequence (groups.map fun as => Edit.pairing q (as.map k)) c = ⟨c', none⟩) :
    EachNamed q (fun i k₁ k₂ => sequence ((column groups i).map k) k₁ = ⟨k₂, none⟩)
      (padded q (widest groups) c) c' := by
  induction groups generalizing c with
  | nil =>
    have hpad : padded q 0 c = c := by
      rw [padded, Nat.zero_sub, List.replicate_zero, List.append_nil]
    rw [Edit.sequence_nil_eq_done.mp h]
    rw [widest, List.map_nil, List.foldr_nil, hpad]
    exact EachNamed.refl (fun i k₁ => Edit.sequence_nil_eq_done.mpr rfl) c
  | cons as groups ih =>
    obtain ⟨c₂, hc₂, hrest⟩ := Edit.sequence_cons_eq_done.mp h
    have hfirst := Edit.pairing_eq_done.mp hc₂
    rw [List.length_map] at hfirst
    have hlater := ih hrest
    -- what is added for the later groups is added before the first one instead
    have hearly : EachNamed q (Edit.Paired (as.map k)) (padded q (widest groups) (padded q as.length c))
        (padded q (widest groups) c₂) := by
      refine hfirst.padded (fun i k' hi => Edit.paired_of_length_le ?_ k') _
      rw [countNamed_padded] at hi
      rw [List.length_map]
      exact Nat.le_trans (Nat.le_max_left _ _) hi
    rw [padded_padded] at hearly
    refine (hearly.trans hlater).mono ?_
    rintro i k₁ k₃ ⟨k₂, hk₂, hk₃⟩
    rw [column_cons, List.map_append, Edit.sequence_append]
    exact Edit.andThen_eq_done.mpr ⟨k₂, paired_map.mp hk₂, hk₃⟩

/-! ## 3. The descent meets its meaning

By induction on the aligned part for all lists of contexts at once.  For one context the descent and its meaning are the
same by definition; for several, the pairings that come one after the other have to be turned into one. -/

namespace Descent

variable {d : Descent} {c c' : List Node}

theorem placeRow_eq_done {row : List String} :
    d.placeRow row c = ⟨c', none⟩ ↔ d.placeInto c row = .ok c' := by
  unfold placeRow placeInto
  rw [Edit.given_eq_done, bind_ok]
  refine exists_congr fun rendered? => and_congr_right fun _ => ?_
  cases rendered? with
  | some rendered => exact Edit.whole_eq_done
  | none => exact ⟨fun h => by cases h; rfl, fun h => by cases h; rfl⟩

theorem render_eq_done {context : Address} :
    d.render context c = ⟨c', none⟩ ↔ d.renderInto c context = .ok c' := by
  unfold render renderInto
  rw [Edit.given_eq_done, bind_ok]
  exact exists_congr fun rows => and_congr_right fun _ =>
    Edit.sequence_map_eq_done fun _ _ _ => placeRow_eq_done

theorem meet_nil (pairs : List (Step × Waypoint)) (c : List Node) : d.meet pairs [] c = .ok c := by
  cases pairs <;> rfl

/-- All contexts that lead to an element, taken down the aligned part one after the other, leave what they
do together. -/
theorem meet_of_alongAligned {pairs : List (Step × Waypoint)} {contexts : List Address}
    (h : sequence (contexts.map (d.alongAligned d.render pairs)) c = ⟨c', none⟩) :
    d.meet pairs contexts c = .ok c' := by
  induction pairs generalizing contexts c c' with
  | nil => exact (Edit.sequence_map_eq_done fun _ _ _ => render_eq_done).mp h
  | cons pair rest ih =>
    obtain ⟨s, w⟩ := pair
    cases contexts with
    | nil =>
      rw [Edit.sequence_nil_eq_done.mp h]
      exact meet_nil _ c
    | cons context contexts =>
      obtain ⟨found, hfound, h⟩ := Edit.sequence_given_eq_done.mp h
      cases w with
      | here =>
        -- At `.` no context has more than one match, or the edit would have failed.
        have hgroups : sequence (found.map fun m => sequence (m.map (d.alongAligned d.render rest))) c =
            ⟨c', none⟩ := by
          refine Edit.sequence_map_mono (fun m c₁ c₂ hm => ?_) h
          by_cases hm₁ : 1 < m.length
          · rw [if_pos hm₁] at hm
            exact (Edit.fail_ne_done hm).elim
          · rw [if_neg hm₁] at hm
            exact hm
        rw [Edit.sequence_map_flatten] at hgroups
        exact bind_ok.mpr ⟨found, hfound, ih hgroups⟩
      | child name =>
        have hne : found ≠ [] := by
          obtain ⟨m, ms, -, -, rfl⟩ := mapM_cons_ok.mp hfound
          exact List.cons_ne_nil m ms
        -- The name is resolved anew for every context, always with the same result.
        obtain ⟨q, hq, h⟩ := Edit.sequence_given_const hne h
        have hpaired : sequence (found.map fun m => Edit.pairing q (m.map (d.alongAligned d.render rest))) c =
            ⟨c', none⟩ := by
          refine Edit.sequence_map_mono (fun m c₁ c₂ hm => ?_) h
          rw [Edit.pairing_map]
          exact hm
        refine bind_ok.mpr ⟨found, hfound, bind_ok.mpr ⟨q, hq, mapNamed_eq_ok.mpr ?_⟩⟩
        -- Element by element, the column of contexts is taken down by induction.
        exact (eachNamed_of_sequence hpaired).mono fun i k k' hk => ih hk

/-- Surplus steps lead to all their contexts before anything is done. -/
theorem reach_of_alongSteps {k : Address → Edit} {steps : List Step} {contexts : List Address}
    (h : sequence (contexts.map (d.alongSteps k steps)) c = ⟨c', none⟩) :
    ∃ reached, d.source.reach d.sourceNames steps contexts = .ok reached ∧
      sequence (reached.map k) c = ⟨c', none⟩ := by
  induction steps generalizing contexts with
  | nil => exact ⟨contexts, rfl, h⟩
  | cons s rest ih =>
    obtain ⟨found, hfound, h⟩ := Edit.sequence_given_eq_done.mp h
    have hgroups : sequence (found.map fun m => sequence (m.map (d.alongSteps k rest))) c = ⟨c', none⟩ := h
    rw [Edit.sequence_map_flatten] at hgroups
    obtain ⟨reached, hreached, h⟩ := ih hgroups
    exact ⟨reached, bind_ok.mpr ⟨found, hfound, hreached⟩, h⟩

/-- Surplus waypoints lead to elements that are each changed alike. -/
theorem spread_of_alongWaypoints {k : Edit} {f : List Node → Except Error (List Node)}
    (hk : ∀ c c', k c = ⟨c', none⟩ → f c = .ok c') {waypoints : List Waypoint}
    (h : d.alongWaypoints k waypoints c = ⟨c', none⟩) : d.spread f waypoints c = .ok c' := by
  induction waypoints generalizing c c' with
  | nil => exact hk c c' h
  | cons w rest ih =>
    cases w with
    | here => exact ih h
    | child name =>
      obtain ⟨q, hq, h⟩ := Edit.given_eq_done.mp h
      have hall := (Edit.andThen_of_done (pad_eq q 1 c)).symm.trans h
      refine bind_ok.mpr ⟨q, hq, mapNamed_eq_ok.mpr ?_⟩
      exact (Edit.allNamed_done hall).mono fun _ _ _ hk => ih hk

theorem meaning_of_follow {sourceRoot : Address}
    (h : d.follow (Route.ofPaths d.rule.source.steps d.rule.destination.waypoints) sourceRoot c =
      ⟨c', none⟩) : d.meaning sourceRoot c = .ok c' := by
  let route := Route.ofPaths d.rule.source.steps d.rule.destination.waypoints
  refine spread_of_alongWaypoints (fun c₁ c₂ h₁ => ?_) h
  have hroot : sequence ([sourceRoot].map
      (d.alongSources d.render route)) c₁ = ⟨c₂, none⟩ :=
    Edit.sequence_cons_eq_done.mpr ⟨c₂, h₁, rfl⟩
  obtain ⟨contexts, hcontexts, h₁⟩ := reach_of_alongSteps hroot
  exact bind_ok.mpr ⟨contexts, hcontexts, meet_of_alongAligned h₁⟩

end Descent

/-- **The descent meets its meaning.**  A rule that succeeds leaves the document in which every element
has received all contexts that lead to it at once. -/
theorem meaning_of_apply {r : Run} {rule : Rule} (h : (r.apply rule).2 = none) :
    r.meaning rule = .ok (r.apply rule).1.document :=
  bind_ok.mpr ⟨_, Descent.meaning_of_follow (Run.follow_of_apply h), rfl⟩

/-- Contexts from several `b` meet in one `p`, and the last of them stays. -/
theorem meaning_of_merging :
    ((Sample.run []).apply Sample.merging).2 = none ∧
      (Sample.run []).meaning Sample.merging =
        .ok ⟨[Sample.element "r" [Sample.element "p" [.text "z"], Sample.element "p" [.text "y"]]]⟩ :=
  ⟨by rfl, meaning_of_apply (by rfl)⟩

/-! ## Summary

**What is established.**  A rule that succeeds leaves the document in which every element has received, in one visit,
all contexts that lead to it.  So the order in which the descent comes back to an element does not show in the document,
and neither does how often it does.

**What is not.**  Of a rule that fails only the descent itself says what is left: some elements have been made for
contexts that were not reached. -/

end Regraft
