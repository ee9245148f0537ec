import Regraft.Pattern.AsciiClass
import Regraft.Unicode.PropertySet
/-!
# Regular expressions

The expressions that patterns stand for, with every flag already applied.
-/

namespace Regraft.Pattern

open Unicode (CharSet)

/-- Conditions on the two characters around a position. -/
inductive Look where
  | textStart
  | textEnd
  | lineStart
  | lineEnd
  /-- As `lineStart`, where a carriage return, alone or before a line feed, ends a line as well. -/
  | lineStartCrlf
  | lineEndCrlf
  | wordBoundary (ascii : Bool)
  | noWordBoundary (ascii : Bool)
  | wordStart (ascii : Bool)
  | wordEnd (ascii : Bool)
  | wordStartHalf (ascii : Bool)
  | wordEndHalf (ascii : Bool)
  deriving DecidableEq, Repr

/-- Whether a character is one of words. -/
def isWordChar (ascii : Bool) (c : Char) : Bool :=
  if ascii then AsciiClass.word.contains c else CharSet.word.contains c

/-- Whether a condition holds between the character before and the one after. -/
def Look.holds (before after : Option Char) : Look → Bool
  | textStart => before.isNone
  | textEnd => after.isNone
  | lineStart => before.all (· == '\n')
  | lineEnd => after.all (· == '\n')
  | lineStartCrlf => before.all fun c => c == '\n' || (c == '\r' && after != some '\n')
  | lineEndCrlf => after.all fun c => c == '\r' || (c == '\n' && before != some '\r')
  | wordBoundary ascii => before.any (isWordChar ascii) != after.any (isWordChar ascii)
  | noWordBoundary ascii => before.any (isWordChar ascii) == after.any (isWordChar ascii)
  | wordStart ascii => !before.any (isWordChar ascii) && after.any (isWordChar ascii)
  | wordEnd ascii => before.any (isWordChar ascii) && !after.any (isWordChar ascii)
  | wordStartHalf ascii => !before.any (isWordChar ascii)
  | wordEndHalf ascii => !after.any (isWordChar ascii)

/-- Regular expressions. -/
inductive Regex where
  | empty
  /-- Any character of a set, written for ASCII alone or for all characters. -/
  | char (ascii : Bool) (set : CharSet)
  | look (l : Look)
  /-- A group, which is remembered if it has an index. -/
  | group (index : Option Nat) (r : Regex)
  | seq (a b : Regex)
  /-- Either of two, the first preferred.  Of three, the last two are the second. -/
  | alt (a b : Regex)
  /-- At least `min` and at most `max` times, as often as possible if `greedy` and else as seldom. -/
  | loop (greedy : Bool) (min : Nat) (max : Option Nat) (r : Regex)
  deriving DecidableEq, Repr

namespace Regex

/-- The number of groups that are remembered, which is the largest index of one. -/
def groups : Regex → Nat
  | group index r => max (index.getD 0) r.groups
  | seq a b | alt a b => max a.groups b.groups
  | loop _ _ _ r => r.groups
  | _ => 0

/-- Whether nothing but the empty text can match. -/
def isBlank : Regex → Bool
  | empty | look _ => true
  | char _ _ => false
  | group _ r | loop _ _ _ r => r.isBlank
  | seq a b | alt a b => a.isBlank && b.isBlank

end Regex

end Regraft.Pattern
