import Regraft.Destination
import Regraft.Dictionary
import Regraft.Normalization
/-!
# Rules and vocabularies

A rule says where to write, where to read, what to extract and how to render it.  A normalizer for each value
has to be there for exactly as many values as the rule extracts, which the type of rules guarantees.
-/

namespace Regraft

/-- One rule. -/
structure Rule where
  destination : Destination
  /-- The elements that give one row of values each, or several. -/
  source : Path
  /-- The columns of the rows, asked from each source element. -/
  values : List Path
  template : Template
  normalization : Normalization
  fits : normalization.fits values.length = true

namespace Rule

/-- Reads the paths and the template of a rule. -/
def parse (destination source : String) (values : List String) (template : String) :
    Except Error Rule := do
  let destination ← Destination.parse destination
  let source ← Path.parse source
  let values ← values.mapM Path.parse
  return ⟨destination, source, values, .parse template, .passThrough, rfl⟩

/-- The rule with a normalization, which must fit its values. -/
def withNormalization (rule : Rule) (normalization : Normalization) : Except Error Rule :=
  if fits : normalization.fits rule.values.length then .ok { rule with normalization, fits }
  else
    let found := match normalization with
      | .perValue normalizers => normalizers.length
      | _ => rule.values.length
    .error (.normalizationArity rule.values.length found (rule.values.map (·.raw)))

/-- A rule as its four parts in parentheses. -/
def display (rule : Rule) : String :=
  "(" ++ Text.quoted rule.destination.path.raw ++ ", " ++ Text.quoted rule.source.raw ++ ", " ++
    Text.quotedList (rule.values.map (·.raw)) ++ ", " ++ Text.quoted rule.template.raw ++ ")"

end Rule

/-- Substitutes for extracted values. -/
structure Vocabulary where
  table : Dictionary String

namespace Vocabulary

/-- The vocabulary that substitutes nothing. -/
def empty : Vocabulary := ⟨.empty⟩

/-- The vocabulary of a list of values with their substitutes. -/
def ofList (entries : List (String × String)) : Vocabulary := ⟨.ofList entries⟩

/-- What stands for a value; a value that is not there becomes the empty text. -/
def lookup (v : Vocabulary) : Option String → String
  | some value => (v.table.find? value).getD value
  | none => ""

end Vocabulary

end Regraft
