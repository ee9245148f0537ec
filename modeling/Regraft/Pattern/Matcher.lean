import Regraft.Pattern.Program
/-!
# Matching

All ways to match are followed together, one character at a time, as threads in the order of preference.  A
thread is the state of the program that it has reached, with the places where its groups began and ended.
Of two threads in the same state the preferred one decides, so the other is dropped: that bounds their
number and ends every loop through the empty text.  It is the outline of an expression that is followed, so
what alternatives begin with alike is preferred before one of them is.
-/

namespace Regraft.Pattern

/-- Where groups began (at twice their index) and ended (one above), the most recent first. -/
abbrev Slots := List (Nat × Nat)

/-- A way to match: the state reached, and the groups so far. -/
structure Thread where
  state : Nat
  slots : Slots
  deriving DecidableEq, Repr

/-- The characters around a position, with the position. -/
structure Here where
  before : Option Char
  after : Option Char
  position : Nat

/-- What threads come to without a character: those that wait for one, in the order of preference, up to
the first that has matched, and the slots of that one.  `met` has one more than the position where each state
was met last. -/
structure Settled where
  waiting : List Thread
  matched : Option Slots
  met : Array Nat

/-- Follows threads until they wait for a character.  `reversed` holds the threads that wait already, the last
first. -/
def settle (p : Program) (h : Here) : Nat → Array Nat → List Thread → List Thread → Settled
  | 0, met, reversed, _ => ⟨reversed.reverse, none, met⟩
  | _, met, reversed, [] => ⟨reversed.reverse, none, met⟩
  | fuel + 1, met, reversed, t :: rest =>
    if met.getD t.state 0 = h.position + 1 then settle p h fuel met reversed rest
    else
      let met := met.setIfInBounds t.state (h.position + 1)
      match p.states.getD t.state .accept with
      | .accept => ⟨reversed.reverse, some t.slots, met⟩
      | .char _ _ => settle p h fuel met (t :: reversed) rest
      | .look l next =>
        settle p h fuel met reversed (if l.holds h.before h.after then ⟨next, t.slots⟩ :: rest else rest)
      | .mark slot next => settle p h fuel met reversed (⟨next, (slot, h.position) :: t.slots⟩ :: rest)
      | .choice first second =>
        settle p h fuel met reversed (⟨first, t.slots⟩ :: ⟨second, t.slots⟩ :: rest)

/-- What threads come to at a position.  Every state is met once and brings at most two threads, which bounds
the steps. -/
def Program.settled (p : Program) (h : Here) (met : Array Nat) (threads : List Thread) : Settled :=
  settle p h (threads.length + 2 * p.states.size + 1) met [] threads

/-- A thread after a character, if its state admits that character. -/
def Program.advance? (p : Program) (c : Char) (t : Thread) : Option Thread :=
  match p.states[t.state]? with
  | some (.char set next) => if set.contains c then some ⟨next, t.slots⟩ else none
  | _ => none

/-- Threads with another that begins at the position reached, which is preferred to none. -/
def Program.withStart (p : Program) (threads : List Thread) : List Thread := threads ++ [⟨p.start, []⟩]

/-- Follows threads through a text.  A match may begin at every position as long as nothing has matched. -/
def Program.follow (p : Program) (before : Option Char) (position : Nat) (met : Array Nat)
    (threads : List Thread) (best : Option Slots) : List Char → Option Slots
  | [] =>
    let threads := if best.isNone then p.withStart threads else threads
    (p.settled ⟨before, none, position⟩ met threads).matched.or best
  | c :: rest =>
    let threads := if best.isNone then p.withStart threads else threads
    let ⟨waiting, matched, met⟩ := p.settled ⟨before, some c, position⟩ met threads
    p.follow (some c) (position + 1) met (waiting.filterMap (p.advance? c)) (matched.or best) rest

/-- The slots of the leftmost match in a text, of several beginning there those of the preferred one. -/
def Program.run (p : Program) (s : List Char) : Option Slots :=
  p.follow none 0 (Array.replicate p.states.size 0) [] none s

/-- The text of a group that took part in a match, and the empty text for one that did not. -/
def groupText (s : List Char) (slots : Slots) (index : Nat) : String :=
  match slots.lookup (2 * index), slots.lookup (2 * index + 1) with
  | some first, some last => .ofList ((s.take last).drop first)
  | _, _ => ""

/-- The groups of the match that `Program.run` finds in a text. -/
def Regex.captures (r : Regex) (text : String) : Option (List String) :=
  ((Outline.ofRegex r).program.run text.toList).map fun slots =>
    (List.range r.groups).map fun i => groupText text.toList slots (i + 1)

end Regraft.Pattern
