import Regraft.Proofs.Pairing
import Regraft.Run
/-!
# What a descent renders, and where

A `Traced` edit is an edit with the visits that it makes on a content: which source nodes it renders in
which elements, in order.  Every way to combine edits is one to combine traced edits, and with these the
descent is told a second time.  Its edit is the descent itself (`edit_tracedFollow`); its visits are those
of the rendering at the end of both paths and no others.
-/

namespace Regraft

open Xml (Address Node QName Tag)
open Edit (countNamed)

/-! ## 1. Traced edits -/

/-- A source node that is rendered, and the place of the element that it is rendered in. -/
structure Visit where
  place : Address
  source : Address
  deriving DecidableEq, Repr

namespace Visit

/-- A visit in the node at a position, seen from outside. -/
def inside (i : Nat) (v : Visit) : Visit := ⟨i :: v.place, v.source⟩

/-- A visit below an address, seen from the document. -/
def below (a : Address) (v : Visit) : Visit := ⟨a ++ v.place, v.source⟩

theorem below_inside (a : Address) (i : Nat) (v : Visit) : (v.inside i).below a = v.below (a ++ [i]) := by
  unfold inside below
  rw [List.append_assoc]
  rfl

end Visit

/-- An edit with the visits that it makes on a content. -/
structure Traced where
  edit : Edit
  visits : List Node → List Visit

namespace Traced

/-- An edit that makes no visit. -/
def silent (f : Edit) : Traced := ⟨f, fun _ => []⟩

/-- One traced edit after another, unless the first is stopped. -/
def andThen (f g : Traced) : Traced :=
  ⟨f.edit.andThen g.edit, fun c =>
    match f.edit c with
    | ⟨c', none⟩ => f.visits c ++ g.visits c'
    | _ => f.visits c⟩

/-- Traced edits one after the other, up to the first that is stopped. -/
def sequence : List Traced → Traced
  | [] => silent .done
  | f :: rest => f.andThen (sequence rest)

/-- The traced edit that depends on a result. -/
def given {α : Type} (r : Except Error α) (k : α → Traced) : Traced :=
  match r with
  | .ok a => k a
  | .error e => silent (.fail e)

/-- The visits of edits paired with the elements of a name in a content that begins at position `i`. -/
def visitsNamed (q : QName) (i : Nat) : List Traced → List Node → List Visit
  | [], _ => []
  | _, [] => []
  | f :: fs, .element tag content :: rest =>
    if tag.name = q then
      match f.edit content with
      | ⟨_, none⟩ => (f.visits content).map (.inside i) ++ visitsNamed q (i + 1) fs rest
      | _ => (f.visits content).map (.inside i)
    else visitsNamed q (i + 1) (f :: fs) rest
  | fs, _ :: rest => visitsNamed q (i + 1) fs rest

/-- Traced edits paired with the elements of a name. -/
def eachNamed (q : QName) (fs : List Traced) : Traced :=
  ⟨.eachNamed q (fs.map edit), visitsNamed q 0 fs⟩

/-- One traced edit for all elements of a name. -/
def allNamed (q : QName) (f : Traced) : Traced :=
  ⟨.allNamed q f.edit, fun c => visitsNamed q 0 (List.replicate (countNamed q c) f) c⟩

variable {f g : Traced} {q : QName} {c c' : List Node}

theorem edit_sequence_map {α : Type} (k : α → Traced) (as : List α) :
    (sequence (as.map k)).edit = Edit.sequence (as.map fun a => (k a).edit) := by
  induction as with
  | nil => rfl
  | cons a as ih => exact congrArg (Edit.andThen (k a).edit) ih

theorem edit_given {α : Type} (r : Except Error α) (k : α → Traced) :
    (given r k).edit = Edit.given r fun a => (k a).edit := by
  cases r <;> rfl

theorem given_ok {α : Type} (a : α) (k : α → Traced) : given (.ok a) k = k a := rfl

theorem visits_andThen (hf : f.edit c = ⟨c', none⟩) :
    (f.andThen g).visits c = f.visits c ++ g.visits c' := by
  rw [andThen]
  dsimp only
  rw [hf]

theorem visitsNamed_nil (i : Nat) (c : List Node) : visitsNamed q i [] c = [] := by
  cases c <;> rfl

theorem visitsNamed_of_nil (i : Nat) (fs : List Traced) : visitsNamed q i fs [] = [] := by
  cases fs <;> rfl

theorem visitsNamed_other {n : Node} (hn : n.isNamed q = false) (i : Nat) (fs : List Traced) (c : List Node) :
    visitsNamed q i fs (n :: c) = visitsNamed q (i + 1) fs c := by
  cases fs with
  | nil => rw [visitsNamed_nil, visitsNamed_nil]
  | cons f fs =>
    cases n with
    | element tag k =>
      rw [Edit.isNamed_element] at hn
      rw [visitsNamed, if_neg (of_decide_eq_false hn)]
    | text v => rfl
    | comment v => rfl
    | instruction t d => rfl

theorem visitsNamed_named {tag : Tag} {k k' : List Node} (hq : tag.name = q) (hf : f.edit k = ⟨k', none⟩)
    (i : Nat) (fs : List Traced) (c : List Node) :
    visitsNamed q i (f :: fs) (.element tag k :: c) =
      (f.visits k).map (.inside i) ++ visitsNamed q (i + 1) fs c := by
  rw [visitsNamed, if_pos hq, hf]

instance : Work Traced where
  fail e := silent (.fail e)
  given := given
  sequence := sequence
  andThen := andThen
  pad q n := silent (.pad q n)
  eachNamed := eachNamed
  allNamed := allNamed

end Traced

/-! ## 2. The descent, traced -/

namespace Descent

/-- Rendering a source node is a visit. -/
def tracedRender (d : Descent) (context : Address) : Traced := ⟨d.render context, fun _ => [⟨[], context⟩]⟩

/-- A descent along a route, traced. -/
def tracedFollow (d : Descent) (route : Route) (context : Address) : Traced := d.along d.tracedRender route context

variable (d : Descent)

theorem edit_alongAligned (leaf : Address → Traced) (pairs : List (Step × Waypoint)) (context : Address) :
    (d.alongAligned leaf pairs context).edit = d.alongAligned (fun a => (leaf a).edit) pairs context := by
  induction pairs generalizing context with
  | nil => rfl
  | cons pair rest ih =>
    obtain ⟨s, w⟩ := pair
    refine (Traced.edit_given _ _).trans (congrArg (Edit.given _) (funext fun found => ?_))
    cases w with
    | here =>
      dsimp only
      split
      · rfl
      · exact (Traced.edit_sequence_map _ found).trans (congrArg (fun k => Edit.sequence (found.map k)) (funext ih))
    | child name =>
      refine (Traced.edit_given _ _).trans (congrArg (Edit.given _) (funext fun q => ?_))
      have hmembers : (found.map (d.alongAligned leaf rest)).map Traced.edit =
          found.map (d.alongAligned (fun a => (leaf a).edit) rest) := by
        rw [List.map_map]
        exact List.map_congr_left fun m _ => ih m
      exact congrArg (fun fs => Edit.andThen (.pad q found.length) (.eachNamed q fs)) hmembers

theorem edit_alongSteps (k : Address → Traced) (steps : List Step) (context : Address) :
    (d.alongSteps k steps context).edit = d.alongSteps (fun a => (k a).edit) steps context := by
  induction steps generalizing context with
  | nil => rfl
  | cons s rest ih =>
    refine (Traced.edit_given _ _).trans (congrArg (Edit.given _) (funext fun found => ?_))
    exact (Traced.edit_sequence_map _ found).trans (congrArg (fun k => Edit.sequence (found.map k)) (funext ih))

theorem edit_alongWaypoints (k : Traced) (waypoints : List Waypoint) :
    (d.alongWaypoints k waypoints).edit = d.alongWaypoints k.edit waypoints := by
  induction waypoints with
  | nil => rfl
  | cons w rest ih =>
    cases w with
    | here => exact ih
    | child name =>
      refine (Traced.edit_given _ _).trans (congrArg (Edit.given _) (funext fun q => ?_))
      exact congrArg (fun f => Edit.andThen (.pad q 1) (.allNamed q f)) ih

/-- **What is traced is the descent.** -/
theorem edit_tracedFollow (route : Route) (context : Address) :
    (d.tracedFollow route context).edit = d.follow route context := by
  rw [tracedFollow, along, edit_alongWaypoints, alongSources, edit_alongSteps,
    funext (d.edit_alongAligned d.tracedRender route.aligned)]
  rfl

end Descent

/-- A rule at work on the content of a run's root, traced. -/
def Run.traced (r : Run) (rule : Rule) : Traced :=
  (r.descent rule).tracedFollow (Route.ofPaths rule.source.steps rule.destination.waypoints) r.sourceRoot

/-- The visits that a rule makes in the document of a run, in order. -/
def Run.visits (r : Run) (rule : Rule) : List Visit :=
  ((r.traced rule).visits r.content).map (.below documentRoot)

end Regraft
