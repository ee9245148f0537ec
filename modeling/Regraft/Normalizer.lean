import Regraft.Pattern.Matcher
import Regraft.Pattern.Parser
import Regraft.Template
/-!
# Normalizers

A normalizer holds rules in order.  The first rule whose pattern matches at the start of a value decides:
the groups of the match, each passed through a transform if the rule has some, fill the rule's template.  A
policy says what becomes of a value that no rule matches.
-/

namespace Regraft

open Pattern (Regex)

/-- A pattern with a template for its groups and transforms for some of them. -/
structure NormalizeRule where
  pattern : String
  regex : Regex
  template : Template
  transforms : List (String → String)

namespace NormalizeRule

/-- The pattern as it is compiled: bound to the start of the value. -/
def anchored (pattern : String) : String := "^(?:" ++ pattern ++ ")"

/-- Compiles a rule without transforms. -/
def compile (pattern template : String) : Except Error NormalizeRule :=
  match Regex.parse (anchored pattern) with
  | some regex => .ok { pattern, regex, template := .parse template, transforms := [] }
  | none => .error (.invalidPattern pattern)

/-- The rule with transforms added for its next groups. -/
def withTransforms (rule : NormalizeRule) (transforms : List (String → String)) : NormalizeRule :=
  { rule with transforms := rule.transforms ++ transforms }

/-- The values that fill the template.  Transforms and groups are paired, and the shorter list decides. -/
def arguments (rule : NormalizeRule) (groups : List String) : List String :=
  if rule.transforms.isEmpty then groups else List.zipWith (fun f g => f g) rule.transforms groups

/-- What a value becomes, if the pattern matches it. -/
def tryOn (rule : NormalizeRule) (value : String) : Option (Except Error String) :=
  (rule.regex.captures value).map fun groups => rule.template.render (rule.arguments groups)

end NormalizeRule

/-- What becomes of a value that no rule matches. -/
inductive NoMatch where
  | keep
  | replace (value : String)
  | filter
  deriving DecidableEq, Repr

/-- Rules in order, with the policy for what none of them matches. -/
structure Normalizer where
  rules : List NormalizeRule
  noMatch : NoMatch

namespace Normalizer

/-- Compiles patterns with their templates. -/
def ofPairs (pairs : List (String × String)) : Except Error Normalizer := do
  let rules ← pairs.mapM fun p => NormalizeRule.compile p.1 p.2
  return ⟨rules, .keep⟩

/-- What a value becomes under a policy; none if it is filtered out. -/
def NoMatch.apply (value : String) : NoMatch → Option String
  | .keep => some value
  | .replace other => some other
  | .filter => none

/-- What a value becomes; none if it is filtered out. -/
def process (n : Normalizer) (value : String) : Except Error (Option String) :=
  match n.rules.findSome? (·.tryOn value) with
  | some rendered => rendered.map some
  | none => .ok (NoMatch.apply value n.noMatch)

end Normalizer

end Regraft
