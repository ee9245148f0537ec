import Regraft.Edit
import Regraft.Fragment
import Regraft.Rule
/-!
# The descent of a rule

A rule goes down the source along its source path and down the new document along its destination at once.

* Steps that the source path has more lead to all matches, one after the other, and all of them write into
  the same element.
* Waypoints that the destination has more lead to every element of their name, one being made if there is
  none, and the same source is written into each.
* The steps left over are aligned with the waypoints left over.  Elements are made until there is one for
  each match of the step, and matches and elements are paired by position.

At the end the values of the rule are asked from the source, row by row, and what the template makes of a
row is placed in the element reached.
-/

namespace Regraft

open Xml (Address Document Node QName)

/-- The two paths of a rule side by side.  At most one of the surpluses is not empty. -/
structure Route where
  surplusSteps : List Step
  surplusWaypoints : List Waypoint
  aligned : List (Step × Waypoint)

/-- Puts steps and waypoints side by side, aligned at their ends. -/
def Route.ofPaths (steps : List Step) (waypoints : List Waypoint) : Route :=
  let moreSteps := steps.length - waypoints.length
  let moreWaypoints := waypoints.length - steps.length
  ⟨steps.take moreSteps, waypoints.take moreWaypoints,
    (steps.drop moreSteps).zip (waypoints.drop moreWaypoints)⟩

/-- The rows of a table of columns, cut off at the shortest column. -/
def rowsOf {α : Type} (columns : List (List α)) : List (List α) :=
  (List.range ((columns.map List.length).min?.getD 0)).map fun i => columns.filterMap (·[i]?)

/-- One rule at work on one source. -/
structure Descent where
  source : Document
  sourceNamespaces : Namespaces
  root : Root
  vocabulary : Vocabulary
  rule : Rule

namespace Descent

/-- What the names in source and value paths stand for: without a prefix, no namespace. -/
def sourceNames (d : Descent) : Resolver := ⟨d.sourceNamespaces, ""⟩

/-! ## Rows -/

/-- The columns that the value paths lead to from a source node. -/
def columns (d : Descent) (context : Address) : Except Error (List (List Item)) :=
  d.rule.values.mapM (d.source.select d.sourceNames context)

/-- The rows of values extracted from a source node. -/
def rows (d : Descent) (context : Address) : Except Error (List (List String)) := do
  let columns ← d.columns context
  return (rowsOf columns).map fun row => row.map fun i => d.vocabulary.lookup (i.extracted d.source)

/-- What the template makes of a row; none if the row is filtered out.  Values are escaped, so that they
supply no markup. -/
def renderRow (d : Descent) (row : List String) : Except Error (Option String) := do
  let normalized ← d.rule.normalization.apply row
  match normalized.mapM id with
  | some values => return some (← d.rule.template.render (values.map Text.escape))
  | none => return none

/-- Places what the template makes of a row. -/
def placeRow (d : Descent) (row : List String) : Edit :=
  .given (d.renderRow row) fun rendered? =>
    match rendered? with
    | some rendered => .whole (Fragment.place d.root rendered)
    | none => .done

/-- Places all rows of a source node. -/
def render (d : Descent) (context : Address) : Edit :=
  .given (d.rows context) fun rows => .sequence (rows.map d.placeRow)

/-! ## Going down -/

/-- The qualified name of a waypoint's elements. -/
def resolve (d : Descent) (name : Name) : Except Error QName :=
  (d.root.resolver.elementName name).mapError (.structuralQuery name.display)

/-- The source nodes that a step leads to. -/
def sources (d : Descent) (s : Step) (context : Address) : Except Error (List Address) :=
  d.source.selectNodes d.sourceNames context s

section

variable {ω : Type} [Work ω]

/-- Goes down the aligned part of the two paths and then does `leaf` at the source node reached. -/
def alongAligned (d : Descent) (leaf : Address → ω) : List (Step × Waypoint) → Address → ω
  | [], context => leaf context
  | (s, w) :: rest, context =>
    Work.given (d.sources s context) fun found =>
      match w with
      | .here =>
        if 1 < found.length then Work.fail (.uncreatableStep w.display)
        else Work.sequence (found.map (d.alongAligned leaf rest))
      | .child name =>
        Work.given (d.resolve name) fun q =>
          Work.andThen (Work.pad q found.length) (Work.eachNamed q (found.map (d.alongAligned leaf rest)))

/-- Goes down the surplus of the source path and then does `k` at each node that it leads to. -/
def alongSteps (d : Descent) (k : Address → ω) : List Step → Address → ω
  | [], context => k context
  | s :: rest, context =>
    Work.given (d.sources s context) fun found => Work.sequence (found.map (d.alongSteps k rest))

/-- Goes down the surplus of the destination and then does `k` in each element that it leads to. -/
def alongWaypoints (d : Descent) (k : ω) : List Waypoint → ω
  | [] => k
  | .here :: rest => d.alongWaypoints k rest
  | .child name :: rest =>
    Work.given (d.resolve name) fun q =>
      Work.andThen (Work.pad q 1) (Work.allNamed q (d.alongWaypoints k rest))

/-- Follows a route below the surplus of its destination. -/
def alongSources (d : Descent) (leaf : Address → ω) (route : Route) (context : Address) : ω :=
  d.alongSteps (d.alongAligned leaf route.aligned) route.surplusSteps context

/-- Follows a route from a source node and does `leaf` where both paths end. -/
def along (d : Descent) (leaf : Address → ω) (route : Route) (context : Address) : ω :=
  d.alongWaypoints (d.alongSources leaf route context) route.surplusWaypoints

end

/-- Follows a route from a source node and renders at its end. -/
def follow (d : Descent) (route : Route) (context : Address) : Edit := d.along d.render route context

/-- The whole descent from the root of the source.  An error tells the rule that it arose in. -/
def run (d : Descent) (sourceRoot : Address) : Edit := fun content =>
  let route := Route.ofPaths d.rule.source.steps d.rule.destination.waypoints
  let outcome := d.follow route sourceRoot content
  { outcome with fault := outcome.fault.map (.inRule d.rule.display) }

end Descent

end Regraft
