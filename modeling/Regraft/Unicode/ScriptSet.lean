import Regraft.Unicode.AgeTable
import Regraft.Unicode.CharSet
import Regraft.Unicode.ExtensionTable
import Regraft.Unicode.ScriptTable
/-!
# Sets of characters by script and by age
-/

namespace Regraft.Unicode

/-- The script of a name. -/
def script? (name : String) : Option Script :=
  scriptLists.findSome? fun scripts => scripts.find? fun s => s.names.contains name

/-- The versions of the standard up to 16.0 by their names, each with the code points that it assigned. -/
def ages : List (String × List (Nat × Nat)) := [
  ("1.1", age1x1), ("2.0", age2x0), ("2.1", age2x1), ("3.0", age3x0), ("3.1", age3x1), ("3.2", age3x2),
  ("4.0", age4x0), ("4.1", age4x1), ("5.0", age5x0), ("5.1", age5x1), ("5.2", age5x2), ("6.0", age6x0),
  ("6.1", age6x1), ("6.2", age6x2), ("6.3", age6x3), ("7.0", age7x0), ("8.0", age8x0), ("9.0", age9x0),
  ("10.0", age10x0), ("11.0", age11x0), ("12.0", age12x0), ("12.1", age12x1), ("13.0", age13x0),
  ("14.0", age14x0), ("15.0", age15x0), ("15.1", age15x1), ("16.0", age16x0)]

namespace CharSet

/-- The characters that belong to a script. -/
def ofScript (name : String) : CharSet := (script? name).elim ∅ fun s => ofRanges s.ranges

/-- The characters that are used in a script of a short name: those that belong to it and are not listed as
being of several scripts, and those that are listed with it. -/
def usedIn (s : Script) : CharSet :=
  let listed := ofRanges (scriptExtensions.map fun e => (e.1, e.2.1))
  let shared := scriptExtensions.filter fun e => s.names.any e.2.2.contains
  (ofRanges s.ranges \ listed) ∪ ofRanges (shared.map fun e => (e.1, e.2.1))

/-- The code points that some version of the standard or an earlier one assigned.  There is no set for a name
that is not that of a version. -/
def upToAge? (version : String) : Option CharSet :=
  if ages.any (·.1 == version) then
    let earlier := ages.takeWhile (·.1 != version) ++ ages.filter (·.1 == version)
    some (earlier.foldl (fun s age => s ∪ ofRanges age.2) ∅)
  else none

end CharSet

end Regraft.Unicode
