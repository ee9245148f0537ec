import Regraft.Xml.Layout
/-!
# Forests

A forest is a list of documents that grow, lose and exchange nodes.  Nodes are handed out under numbers, and
a number stays with its node while other edits move that node about.  So every edit says, besides what it
does to a content, where it leaves the nodes that were there.
-/

namespace Regraft

open Xml (Address Declaration Document Node QName Tag)

/-- Where a node stands: the number of its tree and its address there. -/
structure Place where
  tree : Nat
  address : Address
  deriving DecidableEq, Repr

/-- Documents, and the places of the nodes handed out, by their numbers; a node that is gone has none. -/
structure Forest where
  trees : List Document
  places : List (Option Place)

/-! ## Moving addresses -/

namespace Xml.Address

/-- The address of `a` below `above`, if it is there or further down. -/
def below? (above a : Address) : Option Address :=
  if above.isPrefixOf a then some (a.drop above.length) else none

/-- An address after `shift` has moved the positions in the content at `parent`. -/
def shiftAt (parent : Address) (shift : Nat → Option Nat) (a : Address) : Option Address :=
  match below? parent a with
  | some (i :: rest) => (shift i).map fun j => parent ++ j :: rest
  | _ => some a

/-- Positions after the one at `i` has been taken out. -/
def without (i j : Nat) : Option Nat := if j < i then some j else if j = i then none else some (j - 1)

end Xml.Address

namespace Forest

/-- The forest without trees. -/
def empty : Forest := ⟨[], []⟩

/-- The tree of a place. -/
def tree (f : Forest) (p : Place) : Document := (f.trees[p.tree]?).getD ⟨[]⟩

/-- The place of a numbered node. -/
def place? (f : Forest) (n : Nat) : Option Place := (f.places[n]?).join

/-- The place of a numbered node, which must be there. -/
def place (f : Forest) (n : Nat) : Except Error Place :=
  match f.place? n with
  | some p => .ok p
  | none => .error .refusedEdit

/-- The node at a place; a document is none. -/
def node? (f : Forest) (p : Place) : Option Node := (f.tree p).node? p.address

/-- Gives the node at a place the next number. -/
def handOut (f : Forest) (p : Place) : Forest × Nat :=
  ({ f with places := f.places ++ [some p] }, f.places.length)

/-- The forest with the content at a place changed. -/
def update (f : Forest) (p : Place) (change : List Node → List Node) : Forest :=
  { f with trees := f.trees.modify p.tree fun d => d.update p.address change }

/-- The forest with the numbered nodes of one tree moved. -/
def relocate (f : Forest) (tree : Nat) (move : Address → Option Address) : Forest :=
  { f with places := f.places.map fun p? => p?.bind fun p =>
      if p.tree = tree then (move p.address).map (⟨tree, ·⟩) else some p }

/-! ## Planting -/

/-- Adds a document and hands it out. -/
def plant (f : Forest) (d : Document) : Forest × Nat :=
  handOut { f with trees := f.trees ++ [d] } ⟨f.trees.length, []⟩

/-- Reads a document, adds it and hands it out. -/
def parse (f : Forest) (text : String) : Except Error (Forest × Nat) :=
  (Document.read text).map f.plant

/-- Hands out the first element in the content of a node. -/
def documentElement (f : Forest) (n : Nat) : Except Error (Forest × Nat) := do
  let p ← f.place n
  match ((f.tree p).children p.address).findIdx? Node.isElement with
  | some i => return f.handOut ⟨p.tree, p.address ++ [i]⟩
  | none => throw .noRootElement

/-- Reads a document, adds it and hands out its root element alone. -/
def parseRoot (f : Forest) (text : String) : Except Error (Forest × Nat) := do
  let d ← Document.read text
  let root ← d.root
  return handOut { f with trees := f.trees ++ [d] } ⟨f.trees.length, root⟩

/-- Adds a document of an empty root element with declarations, and hands both out: the document under the
number before that of the element. -/
def createDocument (f : Forest) (name : QName) (declarations : List Declaration) : Forest × Nat :=
  let tag : Tag := { Tag.plain name with
    declarations := declarations.foldl (fun ds d => Xml.declare d ds) [] }
  let (planted, _) := f.plant ⟨[.element tag []]⟩
  planted.handOut ⟨f.trees.length, [0]⟩

/-! ## Edits -/

/-- Adds a new node at the end of the content of a node.  Only documents and elements have one to add to. -/
def append (f : Forest) (parent : Place) (node : Node) : Except Error Forest :=
  if (f.tree parent).isContainer parent.address then .ok (f.update parent (Xml.appendNode · node))
  else .error .refusedEdit

/-- Adds an empty element at the end of a node's content and hands it out. -/
def appendElement (f : Forest) (parent : Nat) (name : QName) : Except Error (Forest × Nat) := do
  let p ← f.place parent
  let i := ((f.tree p).children p.address).length
  let f ← f.append p (.element (.plain name) [])
  return f.handOut ⟨p.tree, p.address ++ [i]⟩

/-- Sets an attribute of an element. -/
def setAttribute (f : Forest) (n : Nat) (name : QName) (value : String) : Except Error Forest := do
  let p ← f.place n
  match f.node? p, p.address.getLast? with
  | some (.element tag content), some i =>
    let tag := { tag with attributes := Xml.setAttribute ⟨name, value⟩ tag.attributes }
    return f.update ⟨p.tree, p.address.dropLast⟩ (·.set i (.element tag content))
  | _, _ => throw .notAnElement

/-- Whether the node at a position of a content stands between two texts. -/
def isBetweenTexts (content : List Node) (i : Nat) : Bool :=
  0 < i && (content[i - 1]?).any Node.isText && (content[i + 1]?).any Node.isText

/-- Joins the texts directly before and after the node at a position of a content, in the place of the first;
the node stays. -/
def joinAround (f : Forest) (parent : Place) (i : Nat) : Forest :=
  if isBetweenTexts ((f.tree parent).children parent.address) i then
    (f.relocate parent.tree (Xml.Address.shiftAt parent.address (Xml.Address.without (i + 1)))).update parent
      (Xml.joinAround · i)
  else f

/-- Takes the node at a position out of a content.  If it kept two texts apart they become one, in the
place of the first. -/
def takeOut (f : Forest) (parent : Place) (i : Nat) : Forest :=
  let joined := f.joinAround parent i
  (joined.relocate parent.tree (Xml.Address.shiftAt parent.address (Xml.Address.without i))).update parent
    (Xml.removeNode · i)

/-- Takes a node out for good.  Returns the place of its former parent. -/
def remove (f : Forest) (n : Nat) : Except Error (Forest × Place) := do
  let p ← f.place n
  match p.address.getLast? with
  | some i =>
    let parent : Place := ⟨p.tree, p.address.dropLast⟩
    return (f.takeOut parent i, parent)
  | none => throw .refusedEdit

/-- The first node in the content of a node. -/
def firstChild? (f : Forest) (p : Place) : Option Node := ((f.tree p).children p.address).head?

/-- Adds a new node before the first in the content of a node.  A text before a text joins it: the text that
was there remains, under its number, and no node moves. -/
def prepend (f : Forest) (parent : Place) (node : Node) : Forest :=
  let joins := node.isText && (f.firstChild? parent).any Node.isText
  let moved := if joins then f else f.relocate parent.tree (Xml.Address.shiftAt parent.address (some <| · + 1))
  moved.update parent (Xml.prependNode node)

/-- Replaces the text that begins a node's content.  A text that is first there is taken out; the empty text
ends there; any other text goes before the node that is first now, or at the end if there is none. -/
def setText (f : Forest) (n : Nat) (value : String) : Except Error Forest := do
  let p ← f.place n
  let cleared := if (f.firstChild? p).any Node.isText then f.takeOut p 0 else f
  if value.isEmpty then return cleared
  match cleared.firstChild? p with
  | some _ => return cleared.prepend p (.text value)
  | none => cleared.append p (.text value)

/-- Puts a node that was taken out at the end of a content, where a text joins the text that it follows.
`before` are the places before it was taken out, of which those from `c` downwards are its own. -/
def putLast (f : Forest) (before : List (Option Place)) (c : Place) (node : Node) (p : Place) : Forest :=
  let content := (f.tree p).children p.address
  let joins := node.isText && content.getLast?.any Node.isText
  let arrive (q? : Option Place) (now? : Option Place) : Option Place :=
    match q?.bind fun q => if q.tree = c.tree then Xml.Address.below? c.address q.address else none with
    | some rest => if joins then none else some ⟨p.tree, p.address ++ content.length :: rest⟩
    | none => now?
  { f.update p (Xml.appendNode · node) with places := List.zipWith arrive before f.places }

/-- Moves a node to the end of another's content.  Documents do not move, and a text that is already the last
there is gone.  Nothing moves into itself, but the texts around it have been joined before that shows. -/
def appendChild (f : Forest) (parent child : Nat) : Forest × Option Error :=
  match f.place? parent, f.place? child with
  | some p, some c =>
    match f.node? c, c.address.getLast? with
    | some node, some i =>
      let home : Place := ⟨c.tree, c.address.dropLast⟩
      let taken := f.takeOut home i
      if !(f.tree p).isContainer p.address then (f, some .refusedEdit)
      else if p.tree = c.tree && c.address.isPrefixOf p.address then (f.joinAround home i, some .refusedEdit)
      else if node.isText && p == home && i + 1 == ((f.tree p).children p.address).length then (taken, none)
      else (taken.putLast f.places c node ((taken.place? parent).getD p), none)
    | _, _ => (f, some .refusedEdit)
  | _, _ => (f, some .refusedEdit)

/-! ## Looking around -/

/-- Hands out the parent of a node; a document has none. -/
def parent (f : Forest) (n : Nat) : Option (Forest × Nat) := do
  let p ← f.place? n
  let above ← Document.parent? p.address
  return f.handOut ⟨p.tree, above⟩

/-- Hands out the child of a node at a position, if there is one. -/
def child (f : Forest) (n i : Nat) : Option (Forest × Nat) := do
  let p ← f.place? n
  let _ ← ((f.tree p).children p.address)[i]?
  return f.handOut ⟨p.tree, p.address ++ [i]⟩

/-- A node written on its own. -/
def write (f : Forest) (style : Xml.Style) (p : Place) : Except Error String :=
  (f.tree p).writeAt style p.address

/-- The whole tree of a node in compact form. -/
def writeTree (f : Forest) (p : Place) : Except Error String := (f.tree p).write .compact

end Forest

end Regraft
