/-!
# Sets of characters

A set is kept as the code points at which membership changes, in ascending order: the first that belongs to
it, the next that does not, and so on.  So every set is written in one way, every operation on two sets is a
walk along both, and equality of sets is equality of lists.  Surrogates are in no set.
-/

namespace Regraft.Unicode

/-- A set of characters, by the code points at which membership changes. -/
structure CharSet where
  changes : List Nat
  deriving DecidableEq, Repr

namespace CharSet

/-- Whether a code point is in the set whose changes are given. -/
def holds (n : Nat) : List Nat → Bool
  | [] => false
  | change :: rest => change ≤ n && !holds n rest

/-- Whether a set holds a character. -/
def contains (s : CharSet) (c : Char) : Bool := holds c.toNat s.changes

/-- The changes of a combination of two sets.  `a` and `b` say whether what comes before the next change is
in the first and in the second; `fuel` is at least the number of changes left. -/
def combineChanges (op : Bool → Bool → Bool) : Nat → Bool → Bool → List Nat → List Nat → List Nat
  | 0, _, _, _, _ => []
  | fuel + 1, a, b, s, t =>
    let emit (n : Nat) (a' b' : Bool) (rest : List Nat) : List Nat :=
      if op a' b' = op a b then rest else n :: rest
    match s, t with
    | [], [] => []
    | x :: s, [] => emit x (!a) b (combineChanges op fuel (!a) b s [])
    | [], y :: t => emit y a (!b) (combineChanges op fuel a (!b) [] t)
    | x :: s, y :: t =>
      if x < y then emit x (!a) b (combineChanges op fuel (!a) b s (y :: t))
      else if y < x then emit y a (!b) (combineChanges op fuel a (!b) (x :: s) t)
      else emit x (!a) (!b) (combineChanges op fuel (!a) (!b) s t)

/-- The characters whose membership in two sets `op` accepts.  What is in neither must not be accepted. -/
def combine (op : Bool → Bool → Bool) (s t : CharSet) : CharSet :=
  ⟨combineChanges op (s.changes.length + t.changes.length) false false s.changes t.changes⟩

instance : EmptyCollection CharSet := ⟨⟨[]⟩⟩
instance : Union CharSet := ⟨combine or⟩
instance : Inter CharSet := ⟨combine and⟩
instance : SDiff CharSet := ⟨combine fun a b => a && !b⟩

/-- The characters of exactly one of two sets. -/
def symmDiff (s t : CharSet) : CharSet := combine xor s t

/-- All characters. -/
def all : CharSet := ⟨[0, 0xD800, 0xE000, 0x110000]⟩

/-- The characters that are not in a set. -/
def complement (s : CharSet) : CharSet := all \ s

/-- The set of one character. -/
def single (c : Char) : CharSet := ⟨[c.toNat, c.toNat + 1]⟩

/-- The characters from one to another. -/
def range (first last : Char) : CharSet :=
  if last < first then ∅
  else if first.toNat < 0xD800 ∧ 0xDFFF < last.toNat then ⟨[first.toNat, 0xD800, 0xE000, last.toNat + 1]⟩
  else ⟨[first.toNat, last.toNat + 1]⟩

/-- The changes of ranges of code points that stand in ascending order; adjacent ones become one. -/
def changesOf : List (Nat × Nat) → List Nat
  | [] => []
  | (first, last) :: rest =>
    match changesOf rest with
    | next :: more => if next = last + 1 then first :: more else first :: (last + 1) :: next :: more
    | [] => [first, last + 1]

/-- The set of ranges of code points that stand in ascending order. -/
def ofRanges (ranges : List (Nat × Nat)) : CharSet := ⟨changesOf ranges⟩

/-- The set of the characters in a list. -/
def ofList (cs : List Char) : CharSet :=
  .ofRanges ((cs.mergeSort fun a b => a ≤ b).eraseReps.map fun c => (c.toNat, c.toNat))

/-- The ranges of a set, by their first and last code points. -/
def ranges (s : CharSet) : List (Nat × Nat) := pairs s.changes
where
  pairs : List Nat → List (Nat × Nat)
    | first :: next :: rest => (first, next - 1) :: pairs rest
    | _ => []

/-- Whether a set holds no character. -/
def isEmpty (s : CharSet) : Bool := s.changes.isEmpty

/-- Whether a set holds no characters but those of ASCII. -/
def isAscii (s : CharSet) : Bool := s.changes.all (· ≤ 0x80)

/-- The character of a set that holds one alone. -/
def only? (s : CharSet) : Option Char :=
  match s.changes with
  | [first, next] => if next = first + 1 then some (Char.ofNat first) else none
  | _ => none

end CharSet

end Regraft.Unicode
