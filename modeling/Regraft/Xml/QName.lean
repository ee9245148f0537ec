/-!
# Qualified names

The name of an element or attribute is a local part in a namespace.  The empty URI stands for no namespace,
so two names are the same exactly when both parts are.
-/

namespace Regraft.Xml

/-- A local part in the namespace of a URI; the empty URI is no namespace. -/
structure QName where
  uri : String
  localPart : String
  deriving DecidableEq, Repr

namespace QName

/-- A name in no namespace. -/
def bare (localPart : String) : QName := ⟨"", localPart⟩

/-- The URI of the namespace, if the name has one. -/
def namespace? (n : QName) : Option String := if n.uri.isEmpty then none else some n.uri

/-- The name with its URI in braces before it, or alone if it is in no namespace. -/
def display (n : QName) : String :=
  match n.namespace? with
  | some uri => "\x7b" ++ uri ++ "\x7d" ++ n.localPart
  | none => n.localPart

end QName

end Regraft.Xml
