import Regraft.Unicode.CategoryTable
import Regraft.Unicode.MarkTable
import Regraft.Unicode.PropertyTable
/-!
# Character properties

The classes of characters that the rest of the library asks about.  `category` looks a character up in
the table of runs; every other property is a union of categories together with a short list of its own.
-/

namespace Regraft.Unicode

/-- The category of the last run that begins at or before `n`; `current` is that of the run before. -/
def categoryIn (n : Nat) (current : Category) : List (Nat × Category) → Category
  | [] => current
  | (first, next) :: rest => if n < first then current else categoryIn n next rest

/-- The runs of the last block that begins at or before `n`. -/
def blockOf (n : Nat) (current : List (Nat × Category)) :
    List (Nat × List (Nat × Category)) → List (Nat × Category)
  | [] => current
  | (first, next) :: rest => if n < first then current else blockOf n next rest

/-- The general category of a character. -/
def category (c : Char) : Category := categoryIn c.toNat .cn (blockOf c.toNat [] categoryBlocks)

/-- Whether one of the ranges holds the character. -/
def inRanges (ranges : List (Nat × Nat)) (c : Char) : Bool :=
  ranges.any fun r => r.1 ≤ c.toNat && c.toNat ≤ r.2

/-- Letters of every kind. -/
def Category.isLetter : Category → Bool
  | .lu | .ll | .lt | .lm | .lo => true
  | _ => false

/-- Marks of every kind. -/
def Category.isMark : Category → Bool
  | .mn | .mc | .me => true
  | _ => false

/-- Decimal digits, letter numbers and other numbers. -/
def Category.isNumber : Category → Bool
  | .nd | .nl | .no => true
  | _ => false

/-- Categories without a visible form: controls, formats, private, unassigned, and the separators. -/
def Category.isHidden : Category → Bool
  | .cc | .cf | .cs | .co | .cn | .zs | .zl | .zp => true
  | _ => false

/-- Letters, letter numbers, and the marks and symbols that count as part of a word's spelling. -/
def isAlphabetic (c : Char) : Bool :=
  (category c).isLetter || category c == .nl || inRanges otherAlphabetic c

/-- Alphabetic characters and numbers. -/
def isAlphanumeric (c : Char) : Bool := isAlphabetic c || (category c).isNumber

/-- White space. -/
def isBlank (c : Char) : Bool := inRanges whiteSpace c

/-- Characters that attach to the one before them. -/
def isGraphemeExtend (c : Char) : Bool :=
  category c == .mn || category c == .me || inRanges otherGraphemeExtend c

/-- Characters with a visible form, and the space.  The letters that only fill a place have none. -/
def isPrintable (c : Char) : Bool :=
  c == ' ' || !((category c).isHidden || inRanges otherDefaultIgnorable c)

/-- Lowercase characters. -/
def isLowercase (c : Char) : Bool := category c == .ll || inRanges otherLowercase c

/-- Uppercase characters. -/
def isUppercase (c : Char) : Bool := category c == .lu || inRanges otherUppercase c

/-- Characters that have a case. -/
def isCased (c : Char) : Bool := isLowercase c || isUppercase c || category c == .lt

/-- Characters that the search for a cased neighbour skips. -/
def isCaseIgnorable (c : Char) : Bool :=
  match category c with
  | .mn | .me | .cf | .lm | .sk => true
  | _ => inRanges otherCaseIgnorable c

end Regraft.Unicode
