import Regraft.Json.Reader
import Regraft.Root
import Regraft.Rule
/-!
# Configurations

A configuration is a JSON text that describes the root to build, the prefixes of the source, a vocabulary and
rules.  Its structures are objects; most of them may also be arrays of their members in order.  Reading a
configuration and compiling its rules are two steps, with errors of their own.
-/

namespace Regraft

/-! ## Entries -/

/-- A pattern with its template and the names of transforms for its groups. -/
structure PatternEntry where
  pattern : String
  template : String
  transforms : List String
  deriving DecidableEq, Repr

/-- What is configured for one value: a transform, patterns, or patterns with a policy. -/
inductive NormalizerEntry where
  | named (name : String)
  | patterns (patterns : List PatternEntry)
  | policy (patterns : List PatternEntry) (noMatch : NoMatch)
  deriving DecidableEq, Repr

/-- A rule as configured. -/
structure RuleEntry where
  destination : String
  source : String
  values : List String
  template : String
  normalize : Option (List (Option NormalizerEntry))
  deriving DecidableEq, Repr

/-- A configuration. -/
structure Config where
  root : Root
  sourceNamespaces : Namespaces
  vocabulary : Vocabulary
  rules : List RuleEntry

namespace Config

open Json (Value)

/-! ## Structures -/

/-- How a structure is written: its members in order, whether it may hold others, and whether it may be an
array. -/
structure Shape where
  members : List String
  admitsOthers : Bool
  admitsArray : Bool

/-- The members of an object under their names; a member of the structure occurs once at most. -/
def objectMembers (shape : Shape) (members : List (Option String × Value)) :
    Option (List (Option Value)) := do
  let named ← members.mapM fun m => m.1.map fun key => (key, m.2)
  let known := named.filter fun m => shape.members.contains m.1
  if !(known.map (·.1)).Nodup then none
  if !shape.admitsOthers && known.length < named.length then none
  return shape.members.map fun key => known.lookup key

/-- The members of a structure in order, those that are not there included. -/
def membersOf (shape : Shape) : Value → Option (List (Option Value))
  | .object members => objectMembers shape members
  | .array elements =>
    if shape.admitsArray && elements.length ≤ shape.members.length then
      some (elements.map some ++ List.replicate (shape.members.length - elements.length) none)
    else none
  | _ => none

/-- The description of the root. -/
def rootShape : Shape := ⟨["name", "default_namespace", "namespaces", "schema_locations"], true, true⟩

/-- The whole configuration. -/
def shape : Shape := ⟨["root", "source_namespaces", "vocabulary", "rules"], false, true⟩

/-- A rule. -/
def ruleShape : Shape := ⟨["destination", "source", "values", "template", "normalize"], false, true⟩

/-- A pattern. -/
def patternShape : Shape := ⟨["pattern", "template", "transforms"], false, true⟩

/-- Patterns with a policy. -/
def policyShape : Shape := ⟨["rules", "no_match"], true, false⟩

/-! ## Values -/

/-- A text. -/
def text : Value → Option String
  | .text value => value
  | _ => none

/-- A list. -/
def list {α : Type} (element : Value → Option α) : Value → Option (List α)
  | .array elements => elements.mapM element
  | _ => none

/-- Texts under texts; a later one replaces an earlier one of its key. -/
def dictionary : Value → Option (Dictionary String)
  | .object members => do
    let bindings ← members.mapM fun (key, value) => do return (← key, ← text value)
    return Dictionary.ofList bindings
  | _ => none

/-- A value that may be null. -/
def nullable {α : Type} (value : Value → Option α) : Value → Option (Option α)
  | .null => some none
  | v => (value v).map some

/-- A member that must be there. -/
def required {α : Type} (value : Value → Option α) (member : Option Value) : Option α := member.bind value

/-- A member that may be left out. -/
def optional {α : Type} (value : Value → Option α) (otherwise : α) : Option Value → Option α
  | some v => value v
  | none => some otherwise

/-! ## Reading -/

/-- Reads the description of a root. -/
def readRoot (v : Value) : Option Root := do
  match ← membersOf rootShape v with
  | [name, defaultNamespace, namespaces, schemaLocations] =>
    let name ← required text name
    let defaultNamespace ← optional (nullable text) none defaultNamespace
    let namespaces ← optional dictionary .empty namespaces
    let schemaLocations ← optional dictionary .empty schemaLocations
    return ⟨name, defaultNamespace, ⟨namespaces⟩, schemaLocations⟩
  | _ => none

/-- Reads a pattern. -/
def readPattern (v : Value) : Option PatternEntry := do
  match ← membersOf patternShape v with
  | [pattern, template, transforms] =>
    let pattern ← required text pattern
    let template ← required text template
    let transforms ← optional (list text) [] transforms
    return ⟨pattern, template, transforms⟩
  | _ => none

/-- Reads a policy: a word, or an object with one member. -/
def readNoMatch : Value → Option NoMatch
  | .text (some "keep") => some .keep
  | .text (some "filter") => some .filter
  | .object [(some "keep", .null)] => some .keep
  | .object [(some "filter", .null)] => some .filter
  | .object [(some "replace", .text (some value))] => some (.replace value)
  | _ => none

/-- Reads what is configured for one value.  `depth` is its nesting in the whole text. -/
def readNormalizer (depth : Nat) (v : Value) : Option NormalizerEntry :=
  if !v.isKept depth then none
  else
    match v with
    | .text value => value.map .named
    | .array patterns => (patterns.mapM readPattern).map .patterns
    | v => do
      match ← membersOf policyShape v with
      | [patterns, noMatch] =>
        let patterns ← required (list readPattern) patterns
        let noMatch ← optional readNoMatch .keep noMatch
        return .policy patterns noMatch
      | _ => none

/-- The nesting of what is configured for one value: inside the configuration, the list of rules, a rule and
the list of its normalizers. -/
def normalizerDepth : Nat := 4

/-- Reads a rule. -/
def readRule (v : Value) : Option RuleEntry := do
  match ← membersOf ruleShape v with
  | [destination, source, values, template, normalize] =>
    let destination ← required text destination
    let source ← required text source
    let values ← required (list text) values
    let template ← required text template
    let normalize ←
      optional (nullable (list (nullable (readNormalizer normalizerDepth)))) none normalize
    return ⟨destination, source, values, template, normalize⟩
  | _ => none

/-- Reads a configuration from its value. -/
def ofValue (v : Value) : Option Config := do
  match ← membersOf shape v with
  | [root, sourceNamespaces, vocabulary, rules] =>
    let root ← required readRoot root
    let sourceNamespaces ← optional dictionary .empty sourceNamespaces
    let vocabulary ← optional dictionary .empty vocabulary
    let rules ← optional (list readRule) [] rules
    return ⟨root, ⟨sourceNamespaces⟩, ⟨vocabulary⟩, rules⟩
  | _ => none

/-- Reads a configuration. -/
def parse (text : String) : Except Error Config :=
  match (Value.parse text).bind ofValue with
  | some c => .ok c
  | none => .error .malformedConfig

end Config

/-! ## Compiling -/

/-- What a configuration can do to a value by name. -/
inductive Transform where
  | lower
  | upper
  | trim
  | identity
  deriving DecidableEq, Repr

namespace Transform

/-- The transform of a name. -/
def ofName (name : String) : Except Error Transform :=
  match name with
  | "lower" => .ok lower
  | "upper" => .ok upper
  | "trim" => .ok trim
  | "identity" => .ok identity
  | _ => .error (.unknownTransform name)

/-- What a value becomes. -/
def apply (value : String) : Transform → String
  | lower => Unicode.lower value
  | upper => Unicode.upper value
  | trim => .ofList (Text.trimBy Unicode.isBlank value.toList)
  | identity => value

end Transform

/-- Compiles a pattern with its transforms. -/
def PatternEntry.compile (p : PatternEntry) : Except Error NormalizeRule := do
  let transforms ← p.transforms.mapM Transform.ofName
  let rule ← NormalizeRule.compile p.pattern p.template
  return rule.withTransforms (transforms.map fun t value => t.apply value)

/-- Compiles what is configured for one value. -/
def NormalizerEntry.compile : NormalizerEntry → Except Error ValueNormalizer
  | named name => do
    let t ← Transform.ofName name
    return .function fun value => some (t.apply value)
  | patterns ps => do return .rules ⟨← ps.mapM PatternEntry.compile, .keep⟩
  | policy ps noMatch => do return .rules ⟨← ps.mapM PatternEntry.compile, noMatch⟩

/-- Compiles what is configured for one value; nothing leaves it as it is. -/
def NormalizerEntry.compileOptional : Option NormalizerEntry → Except Error ValueNormalizer
  | some entry => entry.compile
  | none => .ok (.function some)

/-- Compiles a rule. -/
def RuleEntry.compile (r : RuleEntry) : Except Error Rule := do
  let rule ← Rule.parse r.destination r.source r.values r.template
  match r.normalize with
  | none => return rule
  | some entries => rule.withNormalization (.perValue (← entries.mapM NormalizerEntry.compileOptional))

/-- Compiles the rules of a configuration, in order. -/
def Config.compile (c : Config) : Except Error (List Rule) := c.rules.mapM RuleEntry.compile

end Regraft
