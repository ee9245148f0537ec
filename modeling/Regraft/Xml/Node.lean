import Regraft.Namespaces
/-!
# Trees

The nodes of a document and the operations on the content of an element.  Within a content two texts never
stand side by side: whatever is put next to a text is joined to it if it is a text as well.
-/

namespace Regraft.Xml

/-- A prefix declared for a URI; the empty prefix declares the default namespace. -/
structure Declaration where
  namespacePrefix : String
  uri : String
  deriving DecidableEq, Repr

/-- An attribute with its value. -/
structure Attribute where
  name : QName
  value : String
  deriving DecidableEq, Repr

/-- What the start tag of an element says. -/
structure Tag where
  name : QName
  declarations : List Declaration
  attributes : List Attribute
  deriving DecidableEq, Repr

/-- The nodes that content is made of. -/
inductive Node where
  | element (tag : Tag) (content : List Node)
  | text (value : String)
  | comment (value : String)
  | instruction (target : String) (data : Option String)

/-! ## Tags -/

/-- A declaration added to others, in the place of one of its prefix if there is one. -/
def declare (d : Declaration) : List Declaration → List Declaration
  | [] => [d]
  | e :: rest => if e.namespacePrefix = d.namespacePrefix then d :: rest else e :: declare d rest

/-- An attribute added to others, in the place of one of its name if there is one. -/
def setAttribute (a : Attribute) : List Attribute → List Attribute
  | [] => [a]
  | b :: rest => if b.name = a.name then a :: rest else b :: setAttribute a rest

/-- The tag that says no more than a name. -/
def Tag.plain (name : QName) : Tag := ⟨name, [], []⟩

/-- The value of an attribute. -/
def Tag.attribute? (t : Tag) (name : QName) : Option String :=
  (t.attributes.find? fun a => a.name == name).map (·.value)

/-! ## Nodes -/

namespace Node

/-- The name of an element. -/
def name? : Node → Option QName
  | element tag _ => some tag.name
  | _ => none

/-- Whether the node is an element. -/
def isElement : Node → Bool
  | element _ _ => true
  | _ => false

/-- Whether the node is a text. -/
def isText : Node → Bool
  | text _ => true
  | _ => false

/-- Whether the node is an element of the name. -/
def isNamed (name : QName) (n : Node) : Bool := n.name? == some name

/-- The content of an element; other nodes have none. -/
def content : Node → List Node
  | element _ content => content
  | _ => []

/-- The value of a text. -/
def textValue? : Node → Option String
  | text value => some value
  | _ => none

mutual

/-- All text in a node, in document order. -/
def stringValue : Node → String
  | element _ content => contentValue content
  | text value => value
  | comment _ => ""
  | instruction _ _ => ""

/-- All text in a content, in document order. -/
def contentValue : List Node → String
  | [] => ""
  | n :: rest => n.stringValue ++ contentValue rest

end

/-- The text that begins a content, if it begins with one. -/
def leadingText : List Node → Option String
  | text value :: _ => some value
  | _ => none

/-- The text of a text, or the text that begins an element. -/
def ownText : Node → Option String
  | element _ content => leadingText content
  | text value => some value
  | _ => none

end Node

/-! ## Contents -/

/-- Two neighbours in a content: two texts become one. -/
def joinNodes : Node → Node → List Node
  | .text a, .text b => [.text (a ++ b)]
  | m, n => [m, n]

/-- A content with a node added at its end. -/
def appendNode : List Node → Node → List Node
  | [], n => [n]
  | [m], n => joinNodes m n
  | m :: m' :: rest, n => m :: appendNode (m' :: rest) n

/-- A content with nodes added at its end one after the other. -/
def appendNodes (content nodes : List Node) : List Node := nodes.foldl appendNode content

/-- A content with the node at a position taken out; texts that it kept apart are joined. -/
def removeNode (content : List Node) (i : Nat) : List Node :=
  match content.drop (i + 1) with
  | [] => content.take i
  | n :: rest => appendNode (content.take i) n ++ rest

/-- A content in which the texts directly before and after a position are one text before it. -/
def joinAround : List Node → Nat → List Node
  | .text a :: n :: .text b :: rest, 1 => .text (a ++ b) :: n :: rest
  | n :: rest, i + 1 => n :: joinAround rest i
  | content, _ => content

/-- A content with a node put before the one that is first: a text joins the text that it comes before. -/
def prependNode (n : Node) : List Node → List Node
  | [] => [n]
  | m :: rest => joinNodes n m ++ rest

/-- A content with its leading text replaced, in three steps.  A text that begins it is taken out; the empty
text ends there; any other text is put before the node that is first now, or at the end if there is none. -/
def setLeadingText (value : String) (content : List Node) : List Node :=
  let cleared := if content.head?.any Node.isText then removeNode content 0 else content
  if value.isEmpty then cleared
  else
    match cleared.head? with
    | some _ => prependNode (.text value) cleared
    | none => appendNode cleared (.text value)

end Regraft.Xml
