import Regraft.Text.Markup
import Regraft.Select
/-!
# The root to build

How the root element of a new document is named and what is declared on it.  The same prefixes are in force
for destinations and for the fragments that templates render.
-/

namespace Regraft

open Xml (Attribute Declaration QName Tag)

/-- The description of a root element. -/
structure Root where
  name : String
  /-- The namespace of names without a prefix; the empty URI is none. -/
  defaultNamespace : Option String
  namespaces : Namespaces
  /-- Where the schemas of namespaces are found. -/
  schemaLocations : Dictionary String

namespace Root

/-- The URI of the namespace of names without a prefix, empty if there is none. -/
def defaultUri (r : Root) : String := r.defaultNamespace.getD ""

/-- What the names in destinations stand for. -/
def resolver (r : Root) : Resolver := ⟨r.namespaces, r.defaultUri⟩

/-- The qualified name of the root. -/
def qname (r : Root) : Except Error QName :=
  if r.name.toList.contains ':' then r.namespaces.expand r.name else .ok ⟨r.defaultUri, r.name⟩

/-- The declaration of the default namespace, if there is one. -/
def defaultDeclaration (r : Root) : List Declaration :=
  if r.defaultUri.isEmpty then [] else [⟨"", r.defaultUri⟩]

/-- The bindings that are declared on the root: all but those of the default namespace. -/
def declaredBindings (r : Root) : List (String × String) :=
  if r.defaultUri.isEmpty then r.namespaces.bindings
  else r.namespaces.bindings.filter fun b => b.2 != r.defaultUri

/-- The declaration that the attribute with the schema locations needs, if no binding makes it. -/
def schemaDeclaration (r : Root) : List Declaration :=
  if r.schemaLocations.isEmpty || r.declaredBindings.any fun b => b.2 == Namespaces.schemaInstanceUri then []
  else [⟨"xsi", Namespaces.schemaInstanceUri⟩]

/-- The declarations on the root, in order. -/
def declarations (r : Root) : List Declaration :=
  r.defaultDeclaration ++ r.declaredBindings.map (fun b => ⟨b.1, b.2⟩) ++ r.schemaDeclaration

/-- The attribute with the schema locations, if there are any. -/
def schemaAttribute (r : Root) : List Attribute :=
  if r.schemaLocations.isEmpty then []
  else [⟨⟨Namespaces.schemaInstanceUri, "schemaLocation"⟩,
    " ".intercalate (r.schemaLocations.entries.map fun e => e.1 ++ " " ++ e.2)⟩]

/-- The tag of the root.  A declaration replaces an earlier one of its prefix. -/
def tag (r : Root) : Except Error Tag := do
  return ⟨← r.qname, r.declarations.foldl (fun ds d => Xml.declare d ds) [], r.schemaAttribute⟩

/-- The declarations of the element that fragments are read in, as written in its tag. -/
def fragmentDeclarations (r : Root) : String :=
  (if r.defaultUri.isEmpty then "" else " xmlns=\"" ++ Text.escapeAttribute r.defaultUri ++ "\"") ++
    String.join (r.namespaces.bindings.map fun b =>
      " xmlns:" ++ b.1 ++ "=\"" ++ Text.escapeAttribute b.2 ++ "\"")

end Root

end Regraft
