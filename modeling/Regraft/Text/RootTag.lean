import Regraft.Text.Replace
import Regraft.Unicode.Property
/-!
# The root tag of a serialized document

Two documents that differ only in the order of the attributes on their root compare equal once these are
sorted.  The root tag begins at the first opening bracket that opens neither an instruction nor a comment,
and ends at the first closing bracket outside quotes.  A text without such a tag is left alone.
-/

namespace Regraft.Text

/-- A serialized document around the inside of its root tag. -/
structure RootTag where
  /-- What precedes the opening bracket. -/
  before : List Char
  /-- What stands between the brackets. -/
  inside : List Char
  /-- What follows the closing bracket. -/
  after : List Char

/-- The text before and after the opening bracket of the root tag. -/
def splitRootStart : List Char → Option (List Char × List Char)
  | [] => none
  | c :: rest =>
    if c = '<' ∧ rest.head? ≠ some '?' ∧ rest.head? ≠ some '!' then some ([], rest)
    else (splitRootStart rest).map fun (a, b) => (c :: a, b)

/-- The text before and after the first closing bracket outside quotes; `quote` is the quote that is
open. -/
def splitTagEnd (quote : Option Char) : List Char → Option (List Char × List Char)
  | [] => none
  | c :: rest =>
    let next? : Option (Option Char) :=
      match quote with
      | some q => some (if c = q then none else some q)
      | none => if c = '"' ∨ c = '\'' then some (some c) else if c = '>' then none else some none
    match next? with
    | none => some ([], rest)
    | some quote' => (splitTagEnd quote' rest).map fun (a, b) => (c :: a, b)

/-- Finds the root tag of a text. -/
def RootTag.find? (text : List Char) : Option RootTag := do
  let (before, rest) ← splitRootStart text
  let (inside, after) ← splitTagEnd none rest
  return { before, inside, after }

/-- Where the division into attributes stands: between two, or in one whose characters so far are held
in reverse together with the quote that is open. -/
inductive AttributeState where
  | between
  | within (reversed : List Char) (quote : Option Char)

/-- Divides text into attributes.  One begins at a character that is not blank and ends with its second
quote; what is unfinished at the end is dropped. -/
def splitAttributes : AttributeState → List Char → List (List Char)
  | _, [] => []
  | .between, c :: rest =>
    if Unicode.isBlank c then splitAttributes .between rest else splitAttributes (.within [c] none) rest
  | .within reversed none, c :: rest =>
    splitAttributes (.within (c :: reversed) (if c = '"' ∨ c = '\'' then some c else none)) rest
  | .within reversed (some q), c :: rest =>
    if c = q then (c :: reversed).reverse :: splitAttributes .between rest
    else splitAttributes (.within (c :: reversed) (some q)) rest

/-- Name, attributes and closing slash of the inside of a tag. -/
structure TagParts where
  name : List Char
  attributes : List String
  isEmpty : Bool

/-- Takes the inside of a tag apart. -/
def TagParts.ofInside (inside : List Char) : TagParts :=
  let isEmpty := inside.getLast? == some '/'
  let tag := trimEndBy Unicode.isBlank (if isEmpty then inside.dropLast else inside)
  { name := tag.takeWhile (!Unicode.isBlank ·)
    attributes := (splitAttributes .between (tag.dropWhile (!Unicode.isBlank ·))).map .ofList
    isEmpty }

/-- The inside of a tag with its attributes in ascending order, one space before each. -/
def TagParts.sorted (t : TagParts) : List Char :=
  t.name ++ (t.attributes.mergeSort (· ≤ ·)).flatMap (fun a => ' ' :: a.toList) ++
    (if t.isEmpty then ['/'] else [])

/-- The document with the attributes and declarations of its root tag sorted. -/
def sortRootAttributes (text : String) : String :=
  match RootTag.find? text.toList with
  | none => text
  | some t =>
    .ofList (t.before ++ ['<'] ++ (TagParts.ofInside t.inside).sorted ++ ['>'] ++ t.after)

end Regraft.Text
