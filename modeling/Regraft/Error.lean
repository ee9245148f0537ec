import Regraft.Text.Quoted
/-!
# Errors

What can go wrong, as causes.  `Error.message` is the one place that words them; causes that arise inside
the reading of markup, patterns or configuration texts are worded only by their kind.
-/

namespace Regraft

/-- Why a text is not a path, or not a path to write to. -/
inductive PathFault where
  | emptyStep
  | nameExpected
  | notNameStart (found : Char)
  | positionTooLarge
  | positionZero
  | bracketNotClosed
  | bracketNotOpened
  | unexpected (found : Char)
  | unexpectedInPredicate (found : Char)
  | literalExpected
  | literalNotClosed
  | notDestination (step : String)
  deriving DecidableEq, Repr

/-- The wording of a path's fault. -/
def PathFault.reason : PathFault → String
  | .emptyStep => "empty step"
  | .nameExpected => "expected a name"
  | .notNameStart c => "'" ++ c.toString ++ "' cannot start a name"
  | .positionTooLarge => "position out of range"
  | .positionZero => "positions start at 1"
  | .bracketNotClosed => "unbalanced '['"
  | .bracketNotOpened => "unbalanced ']'"
  | .unexpected c => "unexpected '" ++ c.toString ++ "'"
  | .unexpectedInPredicate c => "unexpected '" ++ c.toString ++ "' in predicate"
  | .literalExpected => "expected a quoted literal"
  | .literalNotClosed => "unterminated literal"
  | .notDestination step => "destination step \"" ++ step ++ "\" must be '.' or an element name"

/-- A prefix that a query uses without a binding, beside the prefixes that have one. -/
structure UnboundPrefix where
  used : String
  defined : List String
  deriving DecidableEq, Repr

/-- The wording of an unbound prefix. -/
def UnboundPrefix.reason (u : UnboundPrefix) : String :=
  "undefined namespace prefix '" ++ u.used ++ "', defined prefixes: " ++ Text.quotedList u.defined

/-- The causes of failure. -/
inductive Error where
  /-- A text is not a path; `position` counts the bytes before the fault. -/
  | malformedPath (path : String) (position : Nat) (fault : PathFault)
  /-- A step of a query, as written, uses a prefix without a binding. -/
  | structuralQuery (step : String) (unbound : UnboundPrefix)
  /-- A template was given the wrong number of values. -/
  | templateArity (template : String) (expected found : Nat) (values : List String)
  /-- A normalization does not fit the number of values. -/
  | normalizationArity (expected found : Nat) (values : List String)
  /-- A destination step that names no element would have to be created. -/
  | uncreatableStep (step : String)
  /-- A rendered fragment is not well-formed content. -/
  | fragmentSyntax (fragment : String)
  /-- A text is not a regular expression. -/
  | invalidPattern (pattern : String)
  /-- A text is not a configuration. -/
  | malformedConfig
  /-- A configuration names a transform that does not exist. -/
  | unknownTransform (name : String)
  /-- A prefix has no binding. -/
  | unknownPrefix (name : String)
  /-- No prefix is bound to a namespace. -/
  | unboundNamespace (uri : String)
  /-- A text is not a prefixed name. -/
  | notPrefixedName (text : String)
  /-- A text is not a name with its namespace in braces. -/
  | notExpandedName (text : String)
  /-- Attributes were asked of a node that is no element. -/
  | notAnElement
  /-- A document has no root element. -/
  | noRootElement
  /-- A text is not a well-formed document. -/
  | malformedXml
  /-- A tree has no serialized form under its declarations. -/
  | unserializable
  /-- A tree does not admit an edit. -/
  | refusedEdit
  /-- A rule failed. -/
  | inRule (rule : String) (cause : Error)
  deriving DecidableEq, Repr

namespace Error

/-- The cause underneath the rules that it arose in. -/
def rootCause : Error → Error
  | inRule _ cause => cause.rootCause
  | e => e

/-- Whether the wording tells the whole cause, rather than its kind alone. -/
def isWorded : Error → Bool
  | fragmentSyntax _ | invalidPattern _ | malformedConfig => false
  | malformedXml | unserializable | refusedEdit => false
  | inRule _ cause => cause.isWorded
  | _ => true

/-- The wording of an error. -/
def message : Error → String
  | malformedPath path position fault =>
    "malformed path \"" ++ path ++ "\" at " ++ toString position ++ ": " ++ fault.reason
  | structuralQuery step unbound => "cannot evaluate \"" ++ step ++ "\": " ++ unbound.reason
  | templateArity template expected found values =>
    "template \"" ++ template ++ "\" has " ++ toString expected ++ " slot(s) but got " ++ toString found ++
      " value(s): " ++ Text.quotedList values
  | normalizationArity expected found values =>
    "normalization returned " ++ toString found ++ " value(s) for " ++ toString expected ++ " input(s): " ++
      Text.quotedList values
  | uncreatableStep step => "cannot create destination element for step \"" ++ step ++ "\""
  | fragmentSyntax _ => "rendered fragment is not well-formed"
  | invalidPattern _ => "invalid normalization pattern"
  | malformedConfig => "invalid rewrite configuration"
  | unknownTransform name =>
    "invalid rewrite configuration: unknown transform \"" ++ name ++
      "\", expected lower, upper, trim or identity"
  | unknownPrefix name => "Unknown namespace prefix: " ++ name
  | unboundNamespace uri => "Unknown namespace prefix: no prefix bound to '" ++ uri ++ "'"
  | notPrefixedName text => "Invalid name: expected 'prefix:name', got '" ++ text ++ "'"
  | notExpandedName text => "Invalid name: expected '\x7bsome:uri\x7dtagname', got '" ++ text ++ "'"
  | notAnElement => "Node access error: attributes can only be set on elements"
  | noRootElement => "Node access error: Document has no root element"
  | malformedXml => "XML parsing error"
  | unserializable => "XML serialization error"
  | refusedEdit => "Tree mutation error"
  | inRule rule cause => "rule " ++ rule ++ ": " ++ cause.message

end Error

end Regraft
