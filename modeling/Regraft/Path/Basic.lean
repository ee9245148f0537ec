/-!
# Paths

A path is a sequence of steps.  Each step has a test that says which nodes it leads to and predicates that
filter them; a predicate is a position or asks a path of its own.  Paths, steps and names remember the text
that they were read from.
-/

namespace Regraft

/-- A name as written, with its prefix if it has one. -/
structure Name where
  namespacePrefix : Option String
  localPart : String
  deriving DecidableEq, Repr

/-- The text of a name. -/
def Name.display (n : Name) : String :=
  match n.namespacePrefix with
  | some p => p ++ ":" ++ n.localPart
  | none => n.localPart

/-- What a step leads to. -/
inductive Test where
  /-- `.`, the context itself. -/
  | here
  /-- `..`, its parent. -/
  | parent
  /-- `*`, its child elements. -/
  | anyElement
  /-- `text()`, the values of its text children. -/
  | text
  /-- Its child elements of one name. -/
  | element (name : Name)
  /-- `@name`, the value of one attribute. -/
  | attribute (name : Name)
  deriving DecidableEq, Repr

mutual

/-- A path with its text. -/
structure Path where
  raw : String
  steps : List Step

/-- A step with its text, predicates included. -/
structure Step where
  raw : String
  test : Test
  predicates : List Predicate

/-- A filter on the items of a step. -/
inductive Predicate where
  /-- Keeps the item at a position, counted from one. -/
  | position (n : Nat)
  /-- Keeps the items from which the path leads to anything. -/
  | exists (path : Path)
  /-- Keeps the items from which the path leads to an item with the value. -/
  | equals (path : Path) (literal : String)
  /-- Keeps the items from which the path leads to an item with another value. -/
  | differs (path : Path) (literal : String)

end

/-- The number of steps. -/
def Path.length (p : Path) : Nat := p.steps.length

/-- Whether there is no step. -/
def Path.isEmpty (p : Path) : Bool := p.steps.isEmpty

/-- A step of a path to write to. -/
inductive Waypoint where
  /-- `.`, the element reached. -/
  | here
  /-- Its child elements of one name. -/
  | child (name : Name)
  deriving DecidableEq, Repr

/-- The text of a waypoint. -/
def Waypoint.display : Waypoint → String
  | here => "."
  | child name => name.display

/-- What a step says about where to write, which only `.` and plain element names do. -/
def Step.waypoint? : Step → Option Waypoint
  | ⟨_, .here, []⟩ => some .here
  | ⟨_, .element name, []⟩ => some (.child name)
  | _ => none

theorem Step.waypoint?_eq_here {s : Step} : s.waypoint? = some .here ↔ ∃ raw, s = ⟨raw, .here, []⟩ := by
  constructor
  · intro h
    unfold Step.waypoint? at h
    split at h
    · exact ⟨_, rfl⟩
    · cases h
    · cases h
  · rintro ⟨raw, rfl⟩
    rfl

theorem Step.waypoint?_eq_child {s : Step} {name : Name} :
    s.waypoint? = some (.child name) ↔ ∃ raw, s = ⟨raw, .element name, []⟩ := by
  constructor
  · intro h
    unfold Step.waypoint? at h
    split at h
    · cases h
    · cases h
      exact ⟨_, rfl⟩
    · cases h
  · rintro ⟨raw, rfl⟩
    rfl

end Regraft
