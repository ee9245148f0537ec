import Regraft.Unicode.AgeTable
import Regraft.Unicode.CategoryTable
import Regraft.Unicode.CharSet
/-!
# Sets of characters by general category

The categories are those of version 16.0 of the standard: what version 17.0 added is unassigned, and the one
letter that it moved to another category is where it was.
-/

namespace Regraft.Unicode

/-- Where membership changes in the set of the code points whose category is one of several.  `inside` says
whether what comes before the first run belongs to it. -/
def categoryChanges (categories : List Category) (inside : Bool) : List (Nat × Category) → List Nat
  | [] => if inside then [0x110000] else []
  | (first, category) :: rest =>
    let now := categories.contains category
    let more := categoryChanges categories now rest
    if now = inside then more else first :: more

/-- The characters that version 17.0 added. -/
def newest : CharSet := .ofRanges age17x0

/-- The letter that version 17.0 moved from the lowercase letters to the other letters. -/
def movedLetter : Char := 'ʕ'

namespace CharSet

/-- The characters of some general categories, of which none is that of the surrogates. -/
def ofCategories (categories : List Category) : CharSet :=
  let latest : CharSet := ⟨categoryChanges categories false (categoryBlocks.flatMap fun block => block.2)⟩
  let settled := (latest \ newest) \ single movedLetter
  let withUnassigned := if categories.contains .cn then settled ∪ newest else settled
  if categories.contains .ll then withUnassigned ∪ single movedLetter else withUnassigned

/-- The characters of ranges of code points, without those that version 17.0 added. -/
def settled (ranges : List (Nat × Nat)) : CharSet := ofRanges ranges \ newest

end CharSet

end Regraft.Unicode
