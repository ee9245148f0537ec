import Regraft.Path.Parser
/-!
# Destinations

A destination is a path all of whose steps say where to write.
-/

namespace Regraft

/-- A path to write to, with what each of its steps says. -/
structure Destination where
  path : Path
  waypoints : List Waypoint
  spelled : path.steps.map Step.waypoint? = waypoints.map some

namespace Destination

/-- The waypoints that steps spell, or the first step that is none with its position, given the position of
the first step. -/
def spell (position : Nat) : (steps : List Step) →
    Except (Nat × String) { ws : List Waypoint // steps.map Step.waypoint? = ws.map some }
  | [] => .ok ⟨[], rfl⟩
  | s :: rest =>
    match h : s.waypoint? with
    | none => .error (position, s.raw)
    | some w =>
      match spell (position + s.raw.utf8ByteSize + 1) rest with
      | .ok ⟨ws, hws⟩ => .ok ⟨w :: ws, by simp [h, hws]⟩
      | .error stray => .error stray

/-- A path as a destination. -/
def ofPath (p : Path) : Except Error Destination :=
  match spell 0 p.steps with
  | .ok ⟨waypoints, spelled⟩ => .ok ⟨p, waypoints, spelled⟩
  | .error (position, raw) => .error (.malformedPath p.raw position (.notDestination raw))

/-- Reads a destination. -/
def parse (text : String) : Except Error Destination := do ofPath (← Path.parse text)

end Destination

end Regraft
