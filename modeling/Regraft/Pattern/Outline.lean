import Regraft.Pattern.Regex
/-!
# Outlines of expressions

The outline of an expression is the form in which it is compiled.  Sequences and alternatives are flat,
adjacent characters are one literal, a set of one character is that character, alternatives that are single
characters or sets are one set, and what all alternatives begin with stands before them.  The same texts
match, but the last of these decides which way to match is preferred: one way through the common beginning
is now tried with every alternative before the next way is.
-/

namespace Regraft.Pattern

open Unicode (CharSet)

/-- Outlines.  A sequence and a choice are each a first member and the rest, which is again one of them or
the last member; no member is of the same kind, and no member of a sequence is empty. -/
inductive Outline where
  | empty
  /-- One or more characters. -/
  | literal (text : List Char)
  /-- A set, written for ASCII alone or for all characters: outlines that differ in that are not the same. -/
  | set (ascii : Bool) (s : CharSet)
  | look (l : Look)
  | group (index : Nat) (body : Outline)
  | loop (greedy : Bool) (min : Nat) (max : Option Nat) (body : Outline)
  | seq (first rest : Outline)
  | alt (first rest : Outline)
  deriving DecidableEq, Repr

namespace Outline

/-! ## Sequences -/

/-- The members of a sequence. -/
def parts : Outline → List Outline
  | empty => []
  | seq first rest => first :: rest.parts
  | o => [o]

/-- The sequence of several members. -/
def ofParts : List Outline → Outline
  | [] => empty
  | [o] => o
  | o :: rest => seq o (ofParts rest)

/-- One list of members after another; literals that meet become one. -/
def joinParts : List Outline → List Outline → List Outline
  | [], later => later
  | [literal a], literal b :: later => literal (a ++ b) :: later
  | o :: earlier, later => o :: joinParts earlier later

/-- One outline after another. -/
def append (a b : Outline) : Outline := ofParts (joinParts a.parts b.parts)

/-! ## Choices -/

/-- The outline of a set.  Only what matches nothing is the same however it was written. -/
def ofSet (ascii : Bool) (s : CharSet) : Outline :=
  match s.only? with
  | some c => literal [c]
  | none => set (ascii && !s.isEmpty) s

/-- The alternatives of a choice. -/
def branches : Outline → List Outline
  | alt first rest => first :: rest.branches
  | o => [o]

/-- The choice between several alternatives; between none, what matches nothing. -/
def ofBranches : List Outline → Outline
  | [] => set false ∅
  | [o] => o
  | o :: rest => alt o (ofBranches rest)

/-- The character of a literal of one character. -/
def char? : Outline → Option Char
  | literal [c] => some c
  | _ => none

/-- The set of an outline that is one. -/
def set? : Outline → Option CharSet
  | set _ s => some s
  | _ => none

/-- The longest list that two lists begin with. -/
def commonParts : List Outline → List Outline → List Outline
  | a :: as, b :: bs => if a = b then a :: commonParts as bs else []
  | _, _ => []

/-- The members that alternatives all begin with, if all are sequences. -/
def sharedParts : List Outline → List Outline
  | [] => []
  | o :: rest =>
    if (o :: rest).all fun o => 1 < o.parts.length then
      rest.foldl (fun shared o => commonParts shared o.parts) o.parts
    else []

/-- The number of outlines in an outline. -/
def nodes : Outline → Nat
  | group _ body | loop _ _ _ body => body.nodes + 1
  | seq first rest | alt first rest => first.nodes + rest.nodes + 1
  | _ => 1

/-- The choice between alternatives that may themselves be choices.  What they all begin with is taken out,
which leaves less to choose from; `fuel` bounds how often. -/
def choose : Nat → List Outline → Outline
  | 0, os => ofBranches os
  | fuel + 1, os =>
    let flat := os.flatMap branches
    if flat.length = 1 then ofBranches flat
    else
      match flat.mapM char?, flat.mapM set? with
      | some cs, _ => ofSet false (.ofList cs)
      | none, some sets => ofSet false (sets.foldl (· ∪ ·) ∅)
      | none, none =>
        match sharedParts flat with
        | [] => ofBranches flat
        | shared =>
          append (ofParts shared)
            (choose fuel (flat.map fun o => ofParts (o.parts.drop shared.length)))

/-- The choice between alternatives. -/
def choice (os : List Outline) : Outline := choose (os.foldl (fun n o => n + o.nodes) 1) os

/-- The outlines of the alternatives of an expression. -/
def alternatives : Regex → List Outline
  | .empty => [empty]
  | .char ascii s => [ofSet ascii s]
  | .look l => [look l]
  | .group none r => [choice (alternatives r)]
  | .group (some index) r => [group index (choice (alternatives r))]
  | .seq a b => [append (choice (alternatives a)) (choice (alternatives b))]
  | .alt a b => choice (alternatives a) :: alternatives b
  | .loop greedy min max r => [loop greedy min max (choice (alternatives r))]

/-- The outline of an expression. -/
def ofRegex (r : Regex) : Outline := choice (alternatives r)

/-! ## Lengths and ends -/

/-- The fewest characters that match; none for what cannot match. -/
def minLength : Outline → Option Nat
  | empty | look _ => some 0
  | literal text => some text.length
  | set _ s => if s.isEmpty then none else some 1
  | group _ body => body.minLength
  | loop _ min _ body => body.minLength.map (min * ·)
  | seq first rest => do return (← first.minLength) + (← rest.minLength)
  | alt first rest => do return Nat.min (← first.minLength) (← rest.minLength)

/-- Whether a match always takes a character. -/
def takesText (o : Outline) : Bool := o.minLength.any (0 < ·)

/-- Whether nothing but the empty text can match. -/
def isBlank : Outline → Bool
  | empty | look _ => true
  | literal _ | set _ _ => false
  | group _ body => body.isBlank
  | loop _ _ max body => max.isSome && body.isBlank
  | seq first rest | alt first rest => first.isBlank && rest.isBlank

/-- Whether every match begins where the text begins. -/
def bindsStart : Outline → Bool
  | look l => l = .textStart
  | empty | literal _ | set _ _ => false
  | group _ body => body.bindsStart
  | loop _ min _ body => 0 < min && body.bindsStart
  | seq first rest => first.bindsStart || (first.isBlank && rest.bindsStart)
  | alt first rest => first.bindsStart && rest.bindsStart

/-- Whether every match ends where the text ends. -/
def bindsEnd : Outline → Bool
  | look l => l = .textEnd
  | empty | literal _ | set _ _ => false
  | group _ body => body.bindsEnd
  | loop _ min _ body => 0 < min && body.bindsEnd
  | seq first rest => rest.bindsEnd || (rest.isBlank && first.bindsEnd)
  | alt first rest => first.bindsEnd && rest.bindsEnd

end Outline

end Regraft.Pattern
