import Regraft.Text.Markup
import Regraft.Xml.Reader
/-!
# Serialized markup

A tree is first turned into pieces of markup, which needs a prefix in scope for every namespace that is
used.  Joined as they are, the pieces are the compact form of the tree; `Xml.Layout` puts line ends and
indentation between them.
-/

namespace Regraft.Xml

/-- How the content of an element treats added blanks. -/
inductive Spacing where
  /-- It holds a text, so nothing may be added. -/
  | mixed
  /-- It says nothing. -/
  | plain
  /-- It asks for the usual treatment again. -/
  | usual
  /-- It asks for its blanks to be kept. -/
  | preserved
  deriving DecidableEq, Repr

/-- A piece of markup.  Start tags tell how the content after them treats blanks, empty ones that there is
none. -/
inductive Piece where
  | startTag (markup : String) (inside : Spacing)
  | endTag (markup : String)
  | emptyTag (markup : String)
  | text (markup : String)
  | aside (markup : String)
  deriving DecidableEq, Repr

/-- The markup of a piece. -/
def Piece.markup : Piece → String
  | startTag m _ | endTag m | emptyTag m | text m | aside m => m

/-! ## Names -/

/-- Declarations in force once `inner` are added, the most recent first. -/
def Scope.extend (inner : List Declaration) (outer : Scope) : Scope :=
  inner.reverse ++ outer.filter fun d => !inner.any fun e => e.namespacePrefix == d.namespacePrefix

/-- The name of an element as written: without a prefix if it is in no namespace or in the default one. -/
def Scope.writeElementName (s : Scope) (n : QName) : Option String :=
  if n.uri.isEmpty || s.contains ⟨"", n.uri⟩ then some n.localPart
  else (s.find? fun d => d.uri == n.uri).map fun d => d.namespacePrefix ++ ":" ++ n.localPart

/-- The name of an attribute as written: without a prefix only if it is in no namespace. -/
def Scope.writeAttributeName (s : Scope) (n : QName) : Option String :=
  if n.uri.isEmpty then some n.localPart
  else (s.find? fun d => !d.namespacePrefix.isEmpty && d.uri == n.uri).map fun d =>
    d.namespacePrefix ++ ":" ++ n.localPart

/-! ## Tags -/

/-- The value of an attribute as written between double quotes. -/
def escapeValue (value : String) : String :=
  .ofList (value.toList.flatMap fun c =>
    if c = '&' then "&amp;".toList
    else if c = '<' then "&lt;".toList
    else if c = '\'' then "&apos;".toList
    else if c = '"' then "&quot;".toList
    else [c])

/-- A declaration as written in a tag, after a space; that of the reserved namespace is left out. -/
def writeDeclaration (d : Declaration) : String :=
  if d.uri = Namespaces.xmlUri then ""
  else if d.namespacePrefix.isEmpty then " xmlns=\"" ++ d.uri ++ "\""
  else " xmlns:" ++ d.namespacePrefix ++ "=\"" ++ d.uri ++ "\""

/-- An attribute as written in a tag, after a space. -/
def writeAttribute (s : Scope) (a : Attribute) : Option String :=
  (s.writeAttributeName a.name).map fun n => " " ++ n ++ "=\"" ++ escapeValue a.value ++ "\""

/-- The name of an element and the inside of its start tag, given the scope inside it. -/
def writeTag (s : Scope) (inherited : List Declaration) (t : Tag) : Option (String × String) := do
  let name ← s.writeElementName t.name
  let attributes ← t.attributes.mapM (writeAttribute s)
  return (name, name ++ String.join ((inherited ++ t.declarations).map writeDeclaration) ++
    String.join attributes)

/-- How an element's content treats added blanks. -/
def spacingOf (t : Tag) (content : List Node) : Spacing :=
  if content.any Node.isText then .mixed
  else
    match t.attribute? ⟨Namespaces.xmlUri, "space"⟩ with
    | some "default" => .usual
    | some "preserve" => .preserved
    | _ => .plain

/-- A comment as written. -/
def writeComment (value : String) : String := "<!--" ++ value ++ "-->"

/-- An instruction as written. -/
def writeInstruction (target : String) (data : Option String) : String :=
  match data with
  | some data => "<?" ++ target ++ " " ++ data ++ "?>"
  | none => "<?" ++ target ++ "?>"

/-! ## Trees -/

mutual

/-- The pieces of a node in a scope; `inherited` are declarations that its tag repeats. -/
def Node.pieces (s : Scope) (inherited : List Declaration) : Node → Option (List Piece)
  | .element tag content => do
    let inner := s.extend tag.declarations
    let (name, inside) ← writeTag inner inherited tag
    if content.isEmpty then return [.emptyTag ("<" ++ inside ++ "/>")]
    let within ← contentPieces inner content
    return .startTag ("<" ++ inside ++ ">") (spacingOf tag content) :: within ++
      [.endTag ("</" ++ name ++ ">")]
  | .text value => some [.text (Text.escape value)]
  | .comment value => some [.aside (writeComment value)]
  | .instruction target data => some [.aside (writeInstruction target data)]

/-- The pieces of a content in a scope. -/
def contentPieces (s : Scope) : List Node → Option (List Piece)
  | [] => some []
  | n :: rest => do
    let here ← n.pieces s []
    return here ++ (← contentPieces s rest)

end

/-- What is in force around a tree that is written on its own. -/
def Scope.written : Scope := [⟨"xml", Namespaces.xmlUri⟩]

/-- The pieces of a node written on its own.  If it is an element, its tag repeats the declarations in
force around it that it does not make itself, given nearest first. -/
def Node.piecesAlone (around : List Declaration) (n : Node) : Option (List Piece) :=
  let inherited :=
    match n with
    | .element tag _ =>
      around.filter fun d => !tag.declarations.any fun e => e.namespacePrefix == d.namespacePrefix
    | _ => []
  n.pieces (Scope.written ++ around.reverse) inherited

/-- Pieces joined as they are. -/
def joinPieces (pieces : List Piece) : String := String.join (pieces.map Piece.markup)

end Regraft.Xml
