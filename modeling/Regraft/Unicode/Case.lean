import Regraft.Unicode.CaseTable
import Regraft.Unicode.Property
/-!
# Case

Full case mapping of texts, where a character may become several and a capital sigma at the end of a word
becomes the final one, and simple folding of single characters, where characters that differ only in case
have one image.
-/

namespace Regraft.Unicode

/-- The image of a code point under one run, if the run holds it. -/
def CaseRun.image? (r : CaseRun) (n : Nat) : Option Nat :=
  if r.first ≤ n ∧ n ≤ r.last ∧ (n - r.first) % r.step = 0 then some (r.target + (n - r.first)) else none

/-- The code point that one run maps to `n`, if there is one. -/
def CaseRun.source? (r : CaseRun) (n : Nat) : Option Nat :=
  if r.target ≤ n ∧ n ≤ r.target + (r.last - r.first) ∧ (n - r.target) % r.step = 0 then
    some (r.first + (n - r.target))
  else none

/-- A character under a mapping: its expansion, else its image in a run, else itself. -/
def mapChar (expansions : List (Nat × List Nat)) (runs : List CaseRun) (c : Char) : List Char :=
  match expansions.lookup c.toNat with
  | some codes => codes.map Char.ofNat
  | none =>
    match runs.findSome? (·.image? c.toNat) with
    | some n => [Char.ofNat n]
    | none => [c]

/-- The first character that is not skipped has a case. -/
def casedNext (cs : List Char) : Bool := (cs.dropWhile isCaseIgnorable).head?.any isCased

/-- Lowercase, given the characters already passed, nearest first. -/
def lowerAfter (before : List Char) : List Char → List Char
  | [] => []
  | c :: rest =>
    let here :=
      if c = 'Σ' then [if casedNext before && !casedNext rest then 'ς' else 'σ']
      else mapChar lowerExpansions lowerRuns c
    here ++ lowerAfter (c :: before) rest

/-- The text in lowercase. -/
def lower (s : String) : String := .ofList (lowerAfter [] s.toList)

/-- The text in uppercase. -/
def upper (s : String) : String := .ofList (s.toList.flatMap (mapChar upperExpansions upperRuns))

/-- The one character that stands for all that differ from `c` only in case. -/
def fold (c : Char) : Char :=
  match foldRuns.findSome? (·.image? c.toNat) with
  | some n => Char.ofNat n
  | none => c

/-- Every character that differs from `c` at most in case, `c` included. -/
def caseVariants (c : Char) : List Char :=
  fold c :: foldRuns.filterMap fun r => (r.source? (fold c).toNat).map Char.ofNat

end Regraft.Unicode
