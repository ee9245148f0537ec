import Regraft.Path.Basic
import Regraft.Xml.Document
/-!
# Structural queries

A path is asked of a document from a context.  Every step is taken from each node that the steps before it
led to; predicates filter what one step leads to from one context.  The results are nodes or texts.
-/

namespace Regraft

open Xml (Address Document QName)

/-- What a query leads to: a node, or the text that a `text()` or `@name` step yields. -/
inductive Item where
  | node (address : Address)
  | text (value : String)
  deriving DecidableEq, Repr

/-- The address of an item that is a node. -/
def Item.address? : Item → Option Address
  | node a => some a
  | text _ => none

/-- The addresses of the items that are nodes. -/
def Item.addresses (items : List Item) : List Address := items.filterMap Item.address?

/-- All text of an item. -/
def Item.stringValue (d : Document) : Item → String
  | node a => d.stringValue a
  | text value => value

/-- The text that a rule extracts from an item: the one that begins an element, or the text itself. -/
def Item.extracted (d : Document) : Item → Option String
  | node a => d.ownText a
  | text value => some value

/-! ## Names in paths -/

/-- What the names in paths stand for: the prefixes, and the namespace of elements without one. -/
structure Resolver where
  namespaces : Namespaces
  defaultUri : String

namespace Resolver

/-- A name with a prefix, which must be bound. -/
def prefixed (r : Resolver) (p localPart : String) : Except UnboundPrefix QName :=
  match r.namespaces.resolve p with
  | some uri => .ok ⟨uri, localPart⟩
  | none => .error ⟨p, r.namespaces.prefixes⟩

/-- The name of an element; without a prefix it is in the default namespace. -/
def elementName (r : Resolver) (n : Name) : Except UnboundPrefix QName :=
  match n.namespacePrefix with
  | some p => r.prefixed p n.localPart
  | none => .ok ⟨r.defaultUri, n.localPart⟩

/-- The name of an attribute; without a prefix it is in no namespace. -/
def attributeName (r : Resolver) (n : Name) : Except UnboundPrefix QName :=
  match n.namespacePrefix with
  | some p => r.prefixed p n.localPart
  | none => .ok (.bare n.localPart)

end Resolver

/-! ## Steps -/

namespace Select

/-- The children at an address that satisfy `p`. -/
def childrenWhere (d : Document) (a : Address) (p : Xml.Node → Bool) : List Item :=
  ((d.addressedChildren a).filter fun c => p c.2).map fun c => .node c.1

/-- What the test of a step leads to from a context. -/
def testItems (d : Document) (r : Resolver) (a : Address) : Test → Except UnboundPrefix (List Item)
  | .here => .ok [.node a]
  | .parent => .ok ((Document.parent? a).map Item.node).toList
  | .anyElement => .ok (childrenWhere d a Xml.Node.isElement)
  | .text => .ok ((d.children a).filterMap fun n => n.textValue?.map Item.text)
  | .element n => (r.elementName n).map fun q => childrenWhere d a (Xml.Node.isNamed q)
  | .attribute n => (r.attributeName n).map fun q => ((d.attribute? a q).map Item.text).toList

/-- The items for which `keep` answers yes; the first failure stops the filtering. -/
def filterItems (keep : Item → Except Error Bool) : List Item → Except Error (List Item)
  | [] => .ok []
  | i :: rest => do
    let here ← keep i
    let more ← filterItems keep rest
    return if here then i :: more else more

/-- What `f` leads to from each address in turn; the first failure stops the gathering. -/
def gather (f : Address → Except Error (List Item)) : List Address → Except Error (List Item)
  | [] => .ok []
  | a :: rest => do
    let here ← f a
    let more ← gather f rest
    return here ++ more

/-- Whether a step, taken from a text, stays at it. -/
def staysAtText : Step → Bool
  | ⟨_, .here, []⟩ => true
  | _ => false

mutual

/-- Takes steps one after the other.  Several contexts may share a parent, which is led to once. -/
def steps (d : Document) (r : Resolver) : List Step → List Item → Except Error (List Item)
  | [], items => .ok items
  | s :: rest, items => do
    let next ← gather (step d r s) (Item.addresses items)
    steps d r rest (if s.test = .parent then next.eraseDups else next)

/-- Takes one step from one context. -/
def step (d : Document) (r : Resolver) : Step → Address → Except Error (List Item)
  | ⟨raw, test, predicates⟩, a =>
    match testItems d r a test with
    | .ok items => filters d r predicates items
    | .error unbound => .error (.structuralQuery raw unbound)

/-- Filters items by predicates one after the other. -/
def filters (d : Document) (r : Resolver) : List Predicate → List Item → Except Error (List Item)
  | [], items => .ok items
  | p :: rest, items => do filters d r rest (← filter d r p items)

/-- Filters items by one predicate. -/
def filter (d : Document) (r : Resolver) : Predicate → List Item → Except Error (List Item)
  | .position n, items => .ok items[n - 1]?.toList
  | .exists p, items => filterItems (fun i => return !(← fromItem d r p i).isEmpty) items
  | .equals p literal, items =>
    filterItems (fun i => return (← fromItem d r p i).any fun j => j.stringValue d == literal) items
  | .differs p literal, items =>
    filterItems (fun i => return (← fromItem d r p i).any fun j => j.stringValue d != literal) items

/-- Takes a path from an item.  From a text, steps that stay where they are lead to it and all others to
nothing. -/
def fromItem (d : Document) (r : Resolver) : Path → Item → Except Error (List Item)
  | ⟨_, ss⟩, .node a => steps d r ss [.node a]
  | ⟨_, ss⟩, .text value => .ok (if ss.all staysAtText then [.text value] else [])

end

end Select

/-- What a path leads to from a context, in document order. -/
def Xml.Document.select (d : Document) (r : Resolver) (context : Address) (p : Path) :
    Except Error (List Item) :=
  Select.steps d r p.steps [.node context]

/-- The nodes that one step leads to from a context. -/
def Xml.Document.selectNodes (d : Document) (r : Resolver) (context : Address) (s : Step) :
    Except Error (List Address) :=
  (Select.step d r s context).map Item.addresses

end Regraft
