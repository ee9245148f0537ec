import Regraft.Forest
import Regraft.Root
import Regraft.Xml.Reader
/-!
# Fragments

A rendered text that begins with markup is read as content, inside an element that declares what the root to
build declares.  Blank texts that only lay the markup out are taken out of it: all of them at the top, and
further down those that have an element beside them.  They are collected first and keep their numbers while
others are taken out.
-/

namespace Regraft

open Xml (Address Document Node)

namespace Fragment

/-- The text of a fragment inside the element that it is read in. -/
def wrap (r : Root) (text : String) : String :=
  "<rewrite-fragment" ++ r.fragmentDeclarations ++ ">" ++ text ++ "</rewrite-fragment>"

/-! ## Blank texts -/

/-- Whether a node is a text of white space alone. -/
def isBlankText (n : Node) : Bool := n.textValue?.any (·.toList.all Unicode.isBlank)

/-- A content that is still to be searched for blank texts, with its address; `atTop` tells whether it is
that of the whole fragment. -/
structure Pending where
  address : Address
  content : List Node
  atTop : Bool

/-- The addresses of the blank texts to take out of one content, last first. -/
def Pending.blanks (p : Pending) : List Address :=
  if p.atTop || p.content.any Node.isElement then
    (p.content.zipIdx.filterMap fun (n, i) => if isBlankText n then some (p.address ++ [i]) else none).reverse
  else []

/-- The contents of the elements in one content, last first. -/
def Pending.inside (p : Pending) : List Pending :=
  (p.content.zipIdx.filterMap fun (n, i) =>
    if n.isElement then some ⟨p.address ++ [i], n.content, false⟩ else none).reverse

mutual

/-- The number of nodes in a node, itself included. -/
def nodeCount : Node → Nat
  | .element _ content => contentCount content + 1
  | _ => 1

/-- The number of nodes in a content. -/
def contentCount : List Node → Nat
  | [] => 0
  | n :: rest => nodeCount n + contentCount rest

end

/-- Searches contents one after the other, the elements in each before what waited already.  What is found
last comes first, so that taking one out leaves the addresses of those after it as they are. -/
def searchBlanks : Nat → List Address → List Pending → List Address
  | 0, found, _ => found
  | _, found, [] => found
  | fuel + 1, found, p :: rest => searchBlanks fuel (p.blanks ++ found) (p.inside ++ rest)

/-- The addresses of all blank texts to take out, in an order in which they can be taken out. -/
def blankTexts (content : List Node) : List Address :=
  searchBlanks (contentCount content + 1) [] [⟨[], content, true⟩]

end Fragment

namespace Forest

/-- Hands out the nodes at some places. -/
def handOutAll (f : Forest) : List Place → Forest × List Nat
  | [] => (f, [])
  | p :: rest =>
    let (g, n) := f.handOut p
    let (g, ns) := g.handOutAll rest
    (g, n :: ns)

/-- Takes numbered nodes out one after the other. -/
def removeAll (f : Forest) : List Nat → Except Error Forest
  | [] => .ok f
  | n :: rest => do
    let (f, _) ← f.remove n
    f.removeAll rest

/-- Collects the blank texts that lay out the content of a node, and takes them out in the order in which they have been
found. -/
def removeBlanks (f : Forest) (wrapper : Nat) : Except Error Forest := do
  let w ← f.place wrapper
  let found := (Fragment.blankTexts ((f.tree w).children w.address)).reverse
  let (g, ns) := f.handOutAll (found.map fun a => ⟨w.tree, w.address ++ a⟩)
  g.removeAll ns

end Forest

namespace Fragment

/-! ## Reading and placing -/

/-- Reads a fragment: in its wrapper, as a document of its own, from which the blank texts are taken out. -/
def read (r : Root) (text : String) : Except Error (List Node) := do
  let (f, document) ← (Forest.empty.parse (wrap r text)).mapError fun _ => .fragmentSyntax text
  let (f, wrapper) ← f.documentElement document
  let f ← f.removeBlanks wrapper
  let w ← f.place wrapper
  return (f.tree w).children w.address

/-- Whether a rendered text is markup: it begins with a bracket after white space. -/
def isMarkup (text : String) : Bool := (text.toList.dropWhile Unicode.isBlank).head? = some '<'

/-- Places a rendered text in a content: markup at its end, and other text, unless it is empty, as the text
that begins it. -/
def place (r : Root) (text : String) (content : List Node) : Except Error (List Node) :=
  if isMarkup text then (read r text).map (Xml.appendNodes content)
  else if text.isEmpty then .ok content
  else .ok (Xml.setLeadingText (Text.unescape text) content)

end Fragment

end Regraft
