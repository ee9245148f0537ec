import Regraft.Pattern.Outline
/-!
# Programs

A program is the outline of an expression written out as numbered states.  Each state says what must come
next and in which state to go on, so following one needs no more than its number.  An outline is written from
its end, since every part of it has to know the state that follows it.
-/

namespace Regraft.Pattern

open Unicode (CharSet)

/-- What one state asks for, and the states after it. -/
inductive State where
  /-- Nothing is left to match. -/
  | accept
  /-- A character of a set. -/
  | char (set : CharSet) (next : Nat)
  | look (l : Look) (next : Nat)
  /-- The place reached is remembered under a number. -/
  | mark (slot : Nat) (next : Nat)
  /-- Either of two ways, the first preferred. -/
  | choice (first second : Nat)
  deriving DecidableEq, Repr

/-- The choice between another round of a loop and what follows the loop. -/
def State.round (greedy : Bool) (more done : Nat) : State :=
  if greedy then .choice more done else .choice done more

/-- Writes states and gives the number of the one to begin in. -/
abbrev Writing := StateM (Array State) Nat

/-- Writes one state. -/
def State.write (s : State) : Writing := fun states => (states.size, states.push s)

/-- Writes `part` a number of times, each time in front of what has been written. -/
def writeTimes (part : Nat → Writing) : Nat → Nat → Writing
  | 0, next => pure next
  | n + 1, next => do writeTimes part n (← part next)

namespace Outline

/-- Writes the states that match an outline and go on in `next`.  Rounds of a bounded loop are written one by
one, the last first.  The last round of an unbounded loop comes back to a choice, which is completed once it
is known where that round begins. -/
def write : Outline → Nat → Writing
  | empty, next => pure next
  | literal text, next => text.foldrM (fun c next => (State.char (.single c) next).write) next
  | set _ s, next => (State.char s next).write
  | look l, next => (State.look l next).write
  | group index body, next => do
    let close ← (State.mark (2 * index + 1) next).write
    let inside ← body.write close
    (State.mark (2 * index) inside).write
  | seq first rest, next => do first.write (← rest.write next)
  | alt first rest, next => do
    let other ← rest.write next
    let preferred ← first.write next
    (State.choice preferred other).write
  | loop greedy min (some max) body, next => do
    let optional (following : Nat) : Writing := do
      let round ← body.write following
      (State.round greedy round next).write
    writeTimes body.write min (← writeTimes optional (max - min) next)
  | loop greedy min none body, next => do
    let again ← State.accept.write
    let round ← body.write again
    modify (·.setIfInBounds again (.round greedy round next))
    if min = 0 then (State.round greedy round next).write else writeTimes body.write (min - 1) round

end Outline

/-- States by number, with the one to begin in. -/
structure Program where
  states : Array State
  start : Nat

/-- The program of an outline. -/
def Outline.program (o : Outline) : Program :=
  let (start, states) := (do o.write (← State.accept.write)).run #[]
  { states, start }

end Regraft.Pattern
