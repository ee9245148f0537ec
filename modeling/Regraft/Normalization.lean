import Regraft.Normalizer
/-!
# Normalization of rows

The values that a rule extracts for one fragment form a row.  A normalization reshapes rows without changing
their width; a row in which a value is filtered out is not rendered.
-/

namespace Regraft

/-- Reshapes one value; none filters the row. -/
inductive ValueNormalizer where
  | function (f : String → Option String)
  | rules (n : Normalizer)

/-- What a value becomes. -/
def ValueNormalizer.apply (value : String) : ValueNormalizer → Except Error (Option String)
  | function f => .ok (f value)
  | rules n => n.process value

/-- How rows are reshaped. -/
inductive Normalization where
  | passThrough
  /-- All values of a row at once. -/
  | wholeRow (f : List String → List (Option String))
  /-- Each value by its own normalizer. -/
  | perValue (normalizers : List ValueNormalizer)

namespace Normalization

/-- Whether a normalization is made for rows of a width. -/
def fits (width : Nat) : Normalization → Bool
  | perValue normalizers => normalizers.length == width
  | _ => true

/-- Each value by the normalizer at its place, as far as there are both; the first failure stops. -/
def applyEach : List String → List ValueNormalizer → Except Error (List (Option String))
  | value :: values, n :: normalizers => do
    let here ← n.apply value
    let more ← applyEach values normalizers
    return here :: more
  | _, _ => .ok []

/-- What a row becomes. -/
def apply (row : List String) : Normalization → Except Error (List (Option String))
  | passThrough => .ok (row.map some)
  | wholeRow f =>
    if (f row).length = row.length then .ok (f row)
    else .error (.normalizationArity row.length (f row).length row)
  | perValue normalizers => applyEach row normalizers

end Normalization

end Regraft
