import Regraft.Unicode.Case
import Regraft.Unicode.CategorySet
/-!
# Sets of characters by case

Which characters differ only in case, the least set that holds with a character all those, and the sets of
characters that a change of case alters.  Mappings from or to characters that version 17.0 of the standard
added do not count.
-/

namespace Regraft.Unicode

/-- The code points of a run with their images. -/
def CaseRun.pairs (r : CaseRun) : List (Char × Char) :=
  (List.range ((r.last - r.first) / r.step + 1)).map fun i =>
    (Char.ofNat (r.first + i * r.step), Char.ofNat (r.target + i * r.step))

/-- The characters that differ only in case from another one, each with those others and itself. -/
def caseOrbits : List (List Char) :=
  (foldRuns.flatMap CaseRun.pairs).map fun pair =>
    (caseVariants pair.2).filter fun c => !newest.contains c

namespace CharSet

/-- The characters that differ at most in case from one of a set. -/
def fold (s : CharSet) : CharSet :=
  s ∪ ofList (caseOrbits.filter fun orbit => orbit.any s.contains).flatten

/-- The characters that differ at most in case from one of a set, where only the letters of ASCII have a
case. -/
def foldAscii (s : CharSet) : CharSet :=
  let letters := (range 'A' 'Z' ∪ range 'a' 'z').ranges.flatMap fun r =>
    (List.range (r.2 - r.1 + 1)).map fun i => Char.ofNat (r.1 + i)
  s ∪ ofList (letters.filter fun c => s.contains c.toLower || s.contains c.toUpper)

/-- The characters that a case mapping changes. -/
def changedBy (expansions : List (Nat × List Nat)) (runs : List CaseRun) : CharSet :=
  let mapped := (runs.flatMap CaseRun.pairs).filter fun pair => !newest.contains pair.2
  ofList (expansions.map (fun e => Char.ofNat e.1) ++ mapped.map Prod.fst) \ newest

/-- The characters that are not their own lowercase. -/
def changesWhenLowercased : CharSet := changedBy lowerExpansions lowerRuns

/-- The characters that are not their own uppercase. -/
def changesWhenUppercased : CharSet := changedBy upperExpansions upperRuns

/-- The characters that are not their own titlecase. -/
def changesWhenTitlecased : CharSet :=
  ((changesWhenUppercased \ ofCategories [.lt]) \ ofRanges untitledLetter) ∪ ofRanges titledCapital

/-- The characters that some case mapping changes. -/
def changesWhenCasemapped : CharSet :=
  changesWhenLowercased ∪ changesWhenUppercased ∪ changesWhenTitlecased

/-- The characters that full case folding changes. -/
def changesWhenCasefolded : CharSet :=
  (changesWhenLowercased \ ofRanges unfoldedCapital) ∪ ofRanges foldedOnly

end CharSet

end Regraft.Unicode
