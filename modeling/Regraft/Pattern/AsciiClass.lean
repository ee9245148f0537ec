import Regraft.Unicode.CharSet
/-!
# Classes of ASCII characters

The classes that patterns name between colons.
-/

namespace Regraft.Pattern.AsciiClass

open Unicode (CharSet)

/-- Decimal digits. -/
def digit : CharSet := .range '0' '9'

/-- Capitals. -/
def upper : CharSet := .range 'A' 'Z'

/-- Small letters. -/
def lower : CharSet := .range 'a' 'z'

/-- Letters. -/
def alpha : CharSet := upper ∪ lower

/-- Letters and digits. -/
def alnum : CharSet := digit ∪ alpha

/-- Letters, digits and the underscore. -/
def word : CharSet := alnum ∪ .single '_'

/-- White space. -/
def space : CharSet := .range '\t' '\r' ∪ .single ' '

/-- Visible characters. -/
def graph : CharSet := .range '!' '~'

/-- The class of a name. -/
def named? (name : String) : Option CharSet :=
  match name with
  | "alnum" => some alnum
  | "alpha" => some alpha
  | "ascii" => some (.range (Char.ofNat 0) '\x7f')
  | "blank" => some (.single '\t' ∪ .single ' ')
  | "cntrl" => some (.range (Char.ofNat 0) '\x1f' ∪ .single '\x7f')
  | "digit" => some digit
  | "graph" => some graph
  | "lower" => some lower
  | "print" => some (.range ' ' '~')
  | "punct" => some (graph \ alnum)
  | "space" => some space
  | "upper" => some upper
  | "word" => some word
  | "xdigit" => some (digit ∪ .range 'A' 'F' ∪ .range 'a' 'f')
  | _ => none

end Regraft.Pattern.AsciiClass
