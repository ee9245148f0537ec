import Regraft.Dictionary
import Regraft.Error
import Regraft.Text.Replace
import Regraft.Xml.QName
/-!
# Registries of prefixes

A registry binds prefixes to the URIs of namespaces.  It turns prefixed names into qualified names and back,
and shortens URIs.  Registries are values: a derived registry leaves the one it came from as it was.
-/

namespace Regraft

open Xml (QName)

/-- Prefixes with their URIs, in the order of the prefixes. -/
structure Namespaces where
  table : Dictionary String

namespace Namespaces

/-- The registry without bindings. -/
def empty : Namespaces := ⟨.empty⟩

instance : Inhabited Namespaces := ⟨empty⟩

/-- The registry of a list of bindings; a later one replaces an earlier one of its prefix. -/
def ofList (bindings : List (String × String)) : Namespaces := ⟨.ofList bindings⟩

/-- The bindings in the order of the prefixes. -/
def bindings (ns : Namespaces) : List (String × String) := ns.table.entries

/-- The prefixes in order. -/
def prefixes (ns : Namespaces) : List String := ns.bindings.map (·.1)

/-- The number of bindings. -/
def size (ns : Namespaces) : Nat := ns.table.size

/-- Whether nothing is bound. -/
def isEmpty (ns : Namespaces) : Bool := ns.table.isEmpty

/-- The namespace of the reserved prefix `xml`. -/
def xmlUri : String := "http://www.w3.org/XML/1998/namespace"

/-- The namespace of the attributes that tie a document to its schemas. -/
def schemaInstanceUri : String := "http://www.w3.org/2001/XMLSchema-instance"

/-- The registry of commonly used prefixes. -/
def wellKnown : Namespaces :=
  ofList [
    ("dc", "http://purl.org/dc/elements/1.1/"),
    ("dcterms", "http://purl.org/dc/terms/"),
    ("diag", "http://www.loc.gov/zing/srw/diagnostic/"),
    ("document", "http://meresco.org/namespace/harvester/document"),
    ("drilldown", "http://meresco.org/namespace/drilldown"),
    ("edm", "http://www.europeana.eu/schemas/edm/"),
    ("foaf", "http://xmlns.com/foaf/0.1/"),
    ("html", "http://www.w3.org/1999/xhtml"),
    ("meresco_ext", "http://meresco.org/namespace/xslt/extensions"),
    ("meta", "http://meresco.org/namespace/harvester/meta"),
    ("oai", "http://www.openarchives.org/OAI/2.0/"),
    ("oai_dc", "http://www.openarchives.org/OAI/2.0/oai_dc/"),
    ("oaiprov", "http://www.openarchives.org/OAI/2.0/provenance"),
    ("owl", "http://www.w3.org/2002/07/owl#"),
    ("prov", "http://www.w3.org/ns/prov#"),
    ("rdf", "http://www.w3.org/1999/02/22-rdf-syntax-ns#"),
    ("rdfs", "http://www.w3.org/2000/01/rdf-schema#"),
    ("sfr", "http://docs.oasis-open.org/ns/search-ws/facetedResults"),
    ("skos", "http://www.w3.org/2004/02/skos/core#"),
    ("soapenv", "http://schemas.xmlsoap.org/soap/envelope/"),
    ("srw", "http://www.loc.gov/zing/srw/"),
    ("srw_dc", "info:srw/schema/1/dc-v1.1"),
    ("sug", "http://meresco.org/namespace/suggestions"),
    ("ti", "http://meresco.org/namespace/timing"),
    ("ucp", "info:lc/xmlns/update-v1"),
    ("wsdl", "http://schemas.xmlsoap.org/wsdl/"),
    ("xml", xmlUri),
    ("xsd", "http://www.w3.org/2001/XMLSchema"),
    ("xsi", schemaInstanceUri),
    ("xsl", "http://www.w3.org/1999/XSL/Transform"),
    ("zr", "http://explain.z3950.org/dtd/2.0/")]

/-! ## From prefixes to namespaces -/

/-- The URI bound to a prefix. -/
def resolve (ns : Namespaces) (p : String) : Option String := ns.table.find? p

/-- The URI bound to a prefix, which must be bound. -/
def require (ns : Namespaces) (p : String) : Except Error String :=
  match ns.resolve p with
  | some uri => .ok uri
  | none => .error (.unknownPrefix p)

/-- The prefix and the local part of a prefixed name, which is divided at its first colon. -/
def splitPrefixed (text : String) : Except Error (String × String) :=
  match Text.splitOnce? ':' text.toList with
  | some (p, l) =>
    if p.isEmpty ∨ l.isEmpty then .error (.notPrefixedName text) else .ok (.ofList p, .ofList l)
  | none => .error (.notPrefixedName text)

/-- The qualified name of a prefixed name. -/
def expand (ns : Namespaces) (text : String) : Except Error QName := do
  let (p, l) ← splitPrefixed text
  return ⟨← ns.require p, l⟩

/-- The URI of a prefixed name: that of the namespace, followed by the local part. -/
def expandUri (ns : Namespaces) (text : String) : Except Error String := do
  let (p, l) ← splitPrefixed text
  return (← ns.require p) ++ l

/-! ## From namespaces to prefixes -/

/-- The first prefix bound to a URI. -/
def prefixFor (ns : Namespaces) (uri : String) : Option String :=
  (ns.bindings.find? fun b => b.2 == uri).map (·.1)

/-- The URI and the local part of a name with its URI in braces. -/
def splitExpanded (text : String) : Except Error (String × String) :=
  match text.toList with
  | '\x7b' :: rest =>
    match Text.splitOnce? '\x7d' rest with
    | some (uri, l) => .ok (.ofList uri, .ofList l)
    | none => .error (.notExpandedName text)
  | _ => .error (.notExpandedName text)

/-- The prefixed name of a name with its URI in braces. -/
def prefixedName (ns : Namespaces) (text : String) : Except Error String := do
  let (uri, l) ← splitExpanded text
  match ns.prefixFor uri with
  | some p => return p ++ ":" ++ l
  | none => throw (.unboundNamespace uri)

/-- The bindings whose URI is not empty and begins the given one. -/
def bindingsWithin (ns : Namespaces) (uri : String) : List (String × String) :=
  ns.bindings.filter fun b => !b.2.isEmpty && b.2.toList.isPrefixOf uri.toList

/-- The binding with the longest URI; of several, the last. -/
def longest (bindings : List (String × String)) : Option (String × String) :=
  bindings.foldl (fun best? b =>
    match best? with
    | some best => if b.2.length < best.2.length then some best else some b
    | none => some b) none

/-- A URI as a prefixed name, by the longest namespace that it begins with. -/
def shorten (ns : Namespaces) (uri : String) : Option String :=
  (longest (ns.bindingsWithin uri)).map fun b =>
    b.1 ++ ":" ++ .ofList (uri.toList.drop b.2.length)

/-! ## Derived registries -/

/-- The registry restricted to prefixes, all of which must be bound. -/
def select (ns : Namespaces) (wanted : List String) : Except Error Namespaces := do
  let bindings ← wanted.mapM fun p => do return (p, ← ns.require p)
  return ofList bindings

/-- The registry with one binding added or replaced. -/
def bind (ns : Namespaces) (p uri : String) : Namespaces := ⟨ns.table.insert p uri⟩

end Namespaces

end Regraft
