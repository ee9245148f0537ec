import Regraft.Xml.Node
/-!
# Documents and addresses

A document is the content that its root element stands in.  A node has as its address the positions to take
from the document downwards, each counted among all children; the empty address is the document itself.
-/

namespace Regraft.Xml

/-- The content of a document: one root element, with comments and instructions around it. -/
structure Document where
  content : List Node

/-- Positions from the document down to a node. -/
abbrev Address := List Nat

/-- The node at a position of a content, at a position of that node's content, and so on. -/
def nodeAt? : List Node → Address → Option Node
  | _, [] => none
  | nodes, [i] => nodes[i]?
  | nodes, i :: address =>
    match nodes[i]? with
    | some n => nodeAt? n.content address
    | none => none

/-- A content with `f` applied to the content at an address inside it. -/
def updateContent (f : List Node → List Node) : Address → List Node → List Node
  | [], nodes => f nodes
  | i :: address, nodes =>
    nodes.modify i fun n =>
      match n with
      | .element tag content => .element tag (updateContent f address content)
      | n => n

/-- The tags of the elements from the outermost down to an address, the one at the address included. -/
def tagsDownTo : List Node → Address → List Tag
  | _, [] => []
  | nodes, i :: address =>
    match nodes[i]? with
    | some (.element tag content) => tag :: tagsDownTo content address
    | _ => []

namespace Document

/-- The node at an address; the document itself is none. -/
def node? (d : Document) (a : Address) : Option Node := nodeAt? d.content a

/-- The children at an address. -/
def children (d : Document) : Address → List Node
  | [] => d.content
  | a => ((d.node? a).map Node.content).getD []

/-- The children at an address with their own addresses. -/
def addressedChildren (d : Document) (a : Address) : List (Address × Node) :=
  (d.children a).zipIdx.map fun (n, i) => (a ++ [i], n)

/-- The address of the parent; the document has none. -/
def parent? : Address → Option Address
  | [] => none
  | a => some a.dropLast

/-- All text at an address. -/
def stringValue (d : Document) : Address → String
  | [] => Node.contentValue d.content
  | a => ((d.node? a).map Node.stringValue).getD ""

/-- The text of a text, or the text that begins an element. -/
def ownText (d : Document) (a : Address) : Option String := (d.node? a).bind Node.ownText

/-- The value of an attribute of the element at an address. -/
def attribute? (d : Document) (a : Address) (name : QName) : Option String :=
  match d.node? a with
  | some (.element tag _) => tag.attribute? name
  | _ => none

/-- Whether the node at an address can hold others: the document or an element. -/
def isContainer (d : Document) (a : Address) : Bool := a.isEmpty || (d.node? a).any Node.isElement

/-- The declarations in force around the node at an address, nearest first.  Of one prefix the nearest is in
force, the first of its tag; one that takes the namespace away leaves nothing in force. -/
def declarationsAround (d : Document) (a : Address) : List Declaration :=
  ((tagsDownTo d.content a.dropLast).reverse.flatMap (·.declarations)).foldl (fun found d =>
    if found.any fun e => e.namespacePrefix == d.namespacePrefix then found else found ++ [d]) []
  |>.filter fun d => !d.uri.isEmpty

/-- The document with `f` applied to the content at an address. -/
def update (d : Document) (a : Address) (f : List Node → List Node) : Document :=
  ⟨updateContent f a d.content⟩

/-- The address of the root element. -/
def rootAddress? (d : Document) : Option Address :=
  (d.content.findIdx? Node.isElement).map fun i => [i]

end Document

end Regraft.Xml
