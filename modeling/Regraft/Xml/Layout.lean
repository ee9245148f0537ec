import Regraft.Xml.Piece
/-!
# Indented markup

Line ends and indentation are put between the pieces of a tree wherever they change no text.  Which blanks
may be added depends on the elements that are open and have content: each says how it treats them.
-/

namespace Regraft.Xml

/-- The elements that are open and have content, the innermost first. -/
abbrev Layout := List Spacing

namespace Layout

/-- Whether one of the open elements holds text. -/
def isMixed (l : Layout) : Bool := l.contains .mixed

/-- The levels of indentation: an element that keeps its blanks suspends the count for those inside it
that say nothing, until one asks for the usual treatment. -/
def depth (l : Layout) : Nat :=
  if l.isMixed then 0
  else
    (l.reverse.foldl (fun (count, suspended) s =>
      match s with
      | .usual => (count + 1, false)
      | .preserved => (count, true)
      | _ => if suspended then (count, true) else (count + 1, false)) (0, false)).1

/-- The blanks before a piece. -/
def indent (l : Layout) : String := String.ofList (List.replicate (2 * l.depth) ' ')

/-- What follows a piece: a line end, unless text is near or blanks are kept. -/
def lineEnd (l : Layout) : String :=
  if l.isMixed || (l.find? (· != .plain)) == some .preserved then "" else "\n"

/-- Pieces with line ends and indentation, given the elements that are open. -/
def render : Layout → List Piece → String
  | _, [] => ""
  | l, .startTag markup inside :: rest =>
    l.indent ++ markup ++ lineEnd (inside :: l) ++ render (inside :: l) rest
  | l, .endTag markup :: rest =>
    (if l.isMixed then "" else indent l.tail) ++ markup ++ lineEnd l.tail ++ render l.tail rest
  | l, .emptyTag markup :: rest => l.indent ++ markup ++ l.lineEnd ++ render l rest
  | l, .text markup :: rest => markup ++ render l rest
  | l, .aside markup :: rest => l.indent ++ markup ++ l.lineEnd ++ render l rest

end Layout

/-- A serialized form: with nothing added, or indented. -/
inductive Style where
  | compact
  | indented
  deriving DecidableEq, Repr

/-- Pieces as one text. -/
def Style.render : Style → List Piece → String
  | compact, pieces => joinPieces pieces
  | indented, pieces => Layout.render [] pieces

/-- A node written on its own, with the declarations in force around it, nearest first. -/
def Node.write (style : Style) (around : List Declaration) (n : Node) : Except Error String :=
  match n.piecesAlone around with
  | some pieces => .ok (style.render pieces)
  | none => .error .unserializable

/-- A whole document. -/
def Document.write (style : Style) (d : Document) : Except Error String :=
  match contentPieces Scope.written d.content with
  | some pieces => .ok (style.render pieces)
  | none => .error .unserializable

/-- The node at an address written on its own, or the whole document. -/
def Document.writeAt (style : Style) (d : Document) (a : Address) : Except Error String :=
  match d.node? a with
  | some n => n.write style (d.declarationsAround a)
  | none => d.write style

end Regraft.Xml
