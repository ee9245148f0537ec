import Std.Data.HashMap
import Regraft.Pattern.Outline
import Regraft.Unicode.Utf8Range
/-!
# The size of a compiled expression

An expression is compiled to states, once for reading forwards and once for reading backwards, and both
must keep to a limit in bytes.  Nothing is built here: the states are only counted.  They are numbered in the
order in which they are made, as the sharing of states among the bytes of a set depends on their numbers.
-/

namespace Regraft.Pattern

open Unicode (CharSet ByteRange)

/-- The most bytes that a compiled expression may take: ten times two to the power of twenty. -/
def sizeLimit : Nat := 10485760

/-- What has been made so far: the number of states, and the bytes of the lists that they hold. -/
structure Tally where
  states : Nat
  listed : Nat

namespace Tally

/-- The bytes in all. -/
def bytes (t : Tally) : Nat := 32 * t.states + t.listed

/-- With further states. -/
def addStates (n : Nat) (t : Tally) : Tally := { t with states := t.states + n }

/-- With further bytes in lists. -/
def addListed (n : Nat) (t : Tally) : Tally := { t with listed := t.listed + n }

end Tally

/-- What has been made once a part is finished, and whether the part ends in a state that branches: such a
state lists what it is connected to. -/
structure Finished where
  tally : Tally
  branching : Bool

/-- With the end of the part connected to what follows. -/
def Finished.connect (f : Finished) : Tally := if f.branching then f.tally.addListed 4 else f.tally

/-! ## Sets -/

/-- States that have been made for a set, by their description.  There is a limited number of places for
them, and a state takes the place of the one that was there. -/
structure Shared where
  places : Nat
  held : Std.HashMap Nat (List Nat × Nat)

/-- The place of a description. -/
def Shared.place (s : Shared) (description : List Nat) : Nat :=
  let hash := description.foldl (fun (h : UInt64) n => (h ^^^ n.toUInt64) * 1099511628211)
    14695981039346656037
  hash.toNat % s.places

/-- What has been made, with the states of a set that can be shared. -/
structure SetTally where
  tally : Tally
  shared : Shared

/-- The number of the state of a description, which is made if it is not at its place. -/
def SetTally.state (description : List Nat) (listed : Nat) (t : SetTally) : Nat × SetTally :=
  let place := t.shared.place description
  match t.shared.held[place]? with
  | some (known, number) => if known = description then (number, t) else make place
  | none => make place
where
  /-- Makes the state. -/
  make (place : Nat) : Nat × SetTally :=
    let number := t.tally.states
    (number, ⟨(t.tally.addStates 1).addListed listed,
      { t.shared with held := t.shared.held.insert place (description, number) }⟩)

/-- Makes the states that read sequences of bytes forwards, of which those with the same first byte stand
together, and that lead to the state `target`: what follows is made before what leads to it. -/
def readForwards (target : Nat) : Nat → List (List ByteRange) → SetTally → Nat × SetTally
  | 0, _, t => (target, t)
  | fuel + 1, sequences, t =>
    if sequences.all List.isEmpty then (target, t)
    else
      let groups := sequences.splitBy fun a b => a.head? == b.head?
      let (steps, t) := groups.foldl (fun (steps, t) group =>
        let (next, t) := readForwards target fuel (group.map List.tail) t
        let (first, last) := (group.head?.bind List.head?).getD (0, 0)
        (next :: last :: first :: steps, t)) ([], t)
      t.state steps.reverse (8 * groups.length)

/-- Makes the states that read a sequence of bytes backwards, beginning with its last one, which leads to
`target`.  The state of the first byte comes last. -/
def readBackwards (target : Nat) (sequence : List ByteRange) (t : SetTally) : Nat × SetTally :=
  sequence.foldl (fun (next, t) range => t.state [next, range.1, range.2] 0) (target, t)

/-- Makes the states of a set. -/
def makeSet (backwards : Bool) (s : CharSet) (t : Tally) : Finished :=
  if s.isAscii then ⟨(t.addStates 2).addListed (8 * s.ranges.length), false⟩
  else
    let sequences := s.byteSequences
    if backwards then
      let start : SetTally := ⟨(t.addStates 2).addListed (4 * sequences.length), ⟨1000, ∅⟩⟩
      let last := start.tally.states - 1
      ⟨(sequences.foldl (fun t sequence => (readBackwards last sequence t).2) start).tally, false⟩
    else
      let start : SetTally := ⟨t.addStates 1, ⟨10000, ∅⟩⟩
      ⟨(readForwards t.states 5 sequences start).2.tally, false⟩

/-! ## Choices between literals -/

/-- The alternatives up to the first empty one, then those up to the next, and so on. -/
def splitAtEmpty (texts : List (List Nat)) : List (List (List Nat)) := texts.splitOnP List.isEmpty

/-- Makes the states of a choice between texts of bytes: one tree whose branches share what they begin with.
A text that ends inside the tree parts the texts before it from those after it. -/
def makeTree : Nat → List (List Nat) → Tally → Tally
  | 0, _, t => t
  | fuel + 1, texts, t =>
    if texts.all List.isEmpty then t
    else
      -- Of the texts that end before any other goes on, one counts.
      let leading := texts.takeWhile List.isEmpty
      let chunks := splitAtEmpty (leading.take 1 ++ texts.drop leading.length)
      let t := chunks.foldl (fun t chunk =>
        let firsts := (chunk.filterMap List.head?).eraseDups
        let t := firsts.foldl (fun t b =>
          makeTree fuel ((chunk.filter fun text => text.head? == some b).map List.tail) t) t
        match firsts.length with
        | 0 => t
        | 1 => (t.addStates 1).addListed 4
        | n => (t.addStates 1).addListed (8 * n + 4)) t
      (t.addStates 1).addListed (4 * (chunks.length - 1))

/-! ## Expressions -/

/-- The text of a literal. -/
def literal? : Outline → Option (List Char)
  | .literal text => some text
  | _ => none

/-- The bytes of a text in the order in which they are read. -/
def bytesRead (backwards : Bool) (text : List Char) : List Nat :=
  let bytes := text.flatMap fun c => Unicode.utf8Bytes c.toNat
  if backwards then bytes.reverse else bytes

/-- Further copies of a part, each connected to the one before.  No more are made once the limit is
exceeded. -/
def copies (make : Tally → Finished) : Nat → Finished → Finished
  | 0, f => f
  | n + 1, f => if sizeLimit < f.tally.bytes then f else copies make n (make f.connect)

/-- Some copies of a part, and an empty state for none. -/
def exactly (make : Tally → Finished) (n : Nat) (t : Tally) : Finished :=
  if n = 0 then ⟨t.addStates 1, false⟩ else copies make (n - 1) (make t)

/-- Further copies of a part, each after a state that branches to it and to the end.  No more are made once
the limit is exceeded. -/
def optionalCopies (make : Tally → Finished) : Nat → Finished → Finished
  | 0, f => f
  | n + 1, f =>
    if sizeLimit < f.tally.bytes then f
    else
      let one := make (f.connect.addStates 1)
      optionalCopies make n { one with tally := one.tally.addListed 8 }

/-- Makes the states of a repetition. -/
def makeLoop (make : Tally → Finished) (takesText : Bool) (min : Nat) (max : Option Nat) (t : Tally) :
    Finished :=
  match min, max with
  | 0, some 1 => ⟨((make (t.addStates 1)).connect.addStates 1).addListed 8, false⟩
  | 0, none =>
    if takesText then ⟨(make (t.addStates 1)).connect.addListed 4, true⟩
    else ⟨((make t).connect.addStates 3).addListed 16, false⟩
  | n + 1, none =>
    let before := if n = 0 then t else (exactly make n t).connect
    ⟨((make before).connect.addStates 1).addListed 4, true⟩
  | min, some max =>
    let least := exactly make min t
    if min = max then least
    else
      ⟨(optionalCopies make (max - min) { least with tally := least.tally.addStates 1 }).connect, false⟩

/-- Makes the states of an outline.  If `branch` is not zero, the outline is the alternative of that number
together with those after it: each is listed at a state that branches, which is made, with the state where
all of them end, once the second is finished. -/
def makeStates (backwards : Bool) (branch : Nat) : Outline → Tally → Finished
  | .alt first rest, t =>
    match branch, (Outline.alt first rest).branches.mapM literal? with
    | 0, some texts =>
      let fuel := (texts.map List.length).sum * 4 + 1
      ⟨makeTree fuel (texts.map (bytesRead backwards)) (t.addStates 1), false⟩
    | _, _ =>
      let number := max branch 1
      makeStates backwards (number + 1) rest (asBranch number (makeStates backwards 0 first t))
  | .empty, t | .look _, t => finish ⟨t.addStates 1, false⟩
  | .literal text, t => finish ⟨t.addStates (bytesRead backwards text).length, false⟩
  | .set _ s, t => finish (makeSet backwards s t)
  | .group _ body, t =>
    finish (if backwards then makeStates backwards 0 body t
      else ⟨(makeStates backwards 0 body (t.addStates 1)).connect.addStates 1, false⟩)
  | .loop _ min max body, t => finish (makeLoop (makeStates backwards 0 body) body.takesText min max t)
  | .seq first rest, t =>
    finish (if backwards then makeStates backwards 0 first (makeStates backwards 0 rest t).connect
      else makeStates backwards 0 rest (makeStates backwards 0 first t).connect)
where
  /-- An alternative, listed and connected to the end. -/
  asBranch (number : Nat) (f : Finished) : Tally :=
    let listed := f.connect.addListed 4
    if number = 2 then listed.addStates 2 else listed
  /-- The last alternative, if it is one. -/
  finish (f : Finished) : Finished := if branch = 0 then f else ⟨asBranch branch f, false⟩

/-- The bytes of an outline compiled for reading in one direction.  Unless every match is bound to where
reading begins, three states before it skip what precedes a match; forwards, the bounds of the match are
remembered. -/
def programBytes (backwards : Bool) (o : Outline) : Nat :=
  let bound := if backwards then o.bindsEnd else o.bindsStart
  let start : Tally := if bound then ⟨1, 0⟩ else ⟨3, 16⟩
  let body :=
    if backwards then (makeStates true 0 o start).connect
    else (makeStates false 0 o (start.addStates 1)).connect.addStates 1
  (body.addStates 1).bytes

/-- Whether an expression keeps to the limit in both directions. -/
def Regex.fits (r : Regex) : Bool :=
  let o := Outline.ofRegex r
  programBytes false o ≤ sizeLimit && programBytes true o ≤ sizeLimit

end Regraft.Pattern
