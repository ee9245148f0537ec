import Regraft.Xml.Document
import Regraft.Xml.Token
/-!
# Reading documents

The tokens of a document are taken one by one.  What has been read is held as the elements that are open,
each with what stands before it, and the content of the innermost.  Names get their namespaces from the
declarations in force where they stand.
-/

namespace Regraft.Xml

/-- Declarations in force, the innermost first. -/
abbrev Scope := List Declaration

/-- What is in force around the root: the reserved prefix, and no default namespace. -/
def Scope.outermost : Scope := [⟨"xml", Namespaces.xmlUri⟩, ⟨"", ""⟩]

/-- The URI that a prefix stands for. -/
def Scope.resolve? (s : Scope) (p : String) : Option String :=
  (s.find? fun d => d.namespacePrefix == p).map (·.uri)

/-- The name of the attribute that identifies an element. -/
def idName : QName := ⟨Namespaces.xmlUri, "id"⟩

namespace Reader

/-! ## References and line ends -/

/-- The number that digits of a base spell, if there is a digit and all of them are. -/
def number? (base : Nat) (digits : List Char) : Option Nat :=
  let digit? (c : Char) : Option Nat :=
    if '0' ≤ c ∧ c ≤ '9' then some (c.toNat - '0'.toNat)
    else if base = 16 ∧ 'a' ≤ c ∧ c ≤ 'f' then some (c.toNat - 'a'.toNat + 10)
    else if base = 16 ∧ 'A' ≤ c ∧ c ≤ 'F' then some (c.toNat - 'A'.toNat + 10)
    else none
  if digits.isEmpty then none
  else digits.foldlM (fun n c => (digit? c).map (base * n + ·)) 0

/-- Digits without the plus sign that may stand before them. -/
def skipPlus (s : List Char) : List Char := if s.head? = some '+' then s.tail else s

/-- The character that a reference stands for, given what is between the ampersand and the semicolon. -/
def reference? (s : List Char) : Option Char :=
  match s with
  | '#' :: 'x' :: digits => (number? 16 (skipPlus digits)).bind charOf?
  | '#' :: digits => (number? 10 (skipPlus digits)).bind charOf?
  | _ => [("amp", '&'), ("lt", '<'), ("gt", '>'), ("quot", '"'), ("apos", '\'')].lookup (String.ofList s)
where
  charOf? (n : Nat) : Option Char := if n.isValidChar then some (Char.ofNat n) else none

/-- Decodes references; every line end becomes `lineEnd` and every other blank passes through `blank`.
`open?` holds in reverse what follows an ampersand that still waits for its semicolon. -/
def decode (lineEnd : Char) (blank : Char → Char) (open? : Option (List Char)) :
    List Char → Option (List Char)
  | [] => if open?.isSome then none else some []
  | c :: rest =>
    match open? with
    | some reversed =>
      if c = ';' then do
        let decoded ← reference? reversed.reverse
        return decoded :: (← decode lineEnd blank none rest)
      else decode lineEnd blank (some (c :: reversed)) rest
    | none =>
      if c = '&' then decode lineEnd blank (some []) rest
      else if c = '\r' then
        if rest.head? = some '\n' then decode lineEnd blank none rest
        else (decode lineEnd blank none rest).map (lineEnd :: ·)
      else if c = '\n' then (decode lineEnd blank none rest).map (lineEnd :: ·)
      else (decode lineEnd blank none rest).map (blank c :: ·)

/-- What a run of text stands for: every line end is a line feed. -/
def decodeText (raw : List Char) : Option (List Char) := decode '\n' id none raw

/-- What the value of an attribute stands for: every blank is a space. -/
def decodeValue (raw : List Char) : Option (List Char) :=
  decode ' ' (fun c => if c = '\t' then ' ' else c) none raw

/-- Runs of spaces made one. -/
def collapseSpaces : List Char → List Char
  | [] => []
  | c :: rest => if c = ' ' ∧ rest.head? = some ' ' then collapseSpaces rest else c :: collapseSpaces rest

/-- An identifier without one leading and one trailing space, its runs of spaces made one. -/
def normalizeId (s : List Char) : List Char :=
  let s := if s.head? = some ' ' then s.tail else s
  collapseSpaces (if s.getLast? = some ' ' then s.dropLast else s)

/-! ## Tags -/

/-- The declaration that an attribute makes: that of its local part after the prefix `xmlns`, and that of the
default namespace if `xmlns` is its local part, whatever its prefix. -/
def declaration? (a : RawAttribute) : Option Declaration :=
  if a.name.namespacePrefix = "xmlns" then some ⟨a.name.localPart, .ofList a.value⟩
  else if a.name.localPart = "xmlns" then some ⟨"", .ofList a.value⟩
  else none

/-- The name of an element: without a prefix it is in the default namespace. -/
def elementName? (s : Scope) (n : RawName) : Option QName :=
  (s.resolve? n.namespacePrefix).map (⟨·, n.localPart⟩)

/-- The name of an attribute: without a prefix it is in no namespace. -/
def attributeName? (s : Scope) (n : RawName) : Option QName :=
  if n.namespacePrefix.isEmpty then some (.bare n.localPart) else elementName? s n

/-- An attribute with its name resolved and its value decoded.  Its name as written says whether its blanks
are those of an identifier. -/
def attribute? (s : Scope) (a : RawAttribute) : Option Attribute := do
  let name ← attributeName? s a.name
  let value ← decodeValue a.value
  return ⟨name, .ofList (if a.name = ⟨"xml", "id"⟩ then normalizeId value else value)⟩

/-- A start tag with the scope inside it, given the scope around it.  No attribute is written twice, but two
that are written differently may have one qualified name.  A prefix may be declared more than once; its last
declaration is in force. -/
def tag? (outer : Scope) (name : RawName) (attributes : List RawAttribute) : Option (Tag × Scope) := do
  let declarations := attributes.filterMap declaration?
  let scope := declarations.reverse ++ outer
  let plain := attributes.filter fun a => (declaration? a).isNone
  if !(plain.map (·.name)).Nodup then none
  let qualified ← plain.mapM (attribute? scope)
  let name ← elementName? scope name
  return (⟨name, declarations, qualified⟩, scope)

/-- The identifiers used once a tag has added its own, of which none is among those before it. -/
def useIds? (used : List String) (t : Tag) : Option (List String) :=
  (t.attributes.filter (·.name == idName)).foldlM
    (fun used a => if used.contains a.value then none else some (a.value :: used)) used

/-! ## Contents -/

/-- An element that has begun: its tag, the scope inside it, and what stands before it, last node first. -/
structure Opened where
  tag : Tag
  scope : Scope
  before : List Node

/-- What has been read: the elements that are open, innermost first; the content of the innermost, last
node first; and the identifiers used. -/
structure State where
  opened : List Opened
  reversed : List Node
  ids : List String

/-- Nothing read yet. -/
def State.start : State := ⟨[], [], []⟩

/-- The scope where reading stands. -/
def State.scope (st : State) : Scope :=
  match st.opened with
  | o :: _ => o.scope
  | [] => .outermost

/-- A node after what has been read. -/
def State.add (st : State) (n : Node) : State := { st with reversed := n :: st.reversed }

/-- A text after what has been read; it joins a text that it follows.  Outside the root there is none. -/
def State.addText (st : State) (value : List Char) : Option State :=
  if st.opened.isEmpty then none
  else
    match st.reversed with
    | .text before :: rest => some { st with reversed := .text (before ++ .ofList value) :: rest }
    | nodes => some { st with reversed := .text (.ofList value) :: nodes }

/-- Data of an instruction; none is different from empty data only in that it is not written. -/
def dataOf (data : List Char) : Option String := if data.isEmpty then none else some (.ofList data)

/-- Takes one token.  There is one root, identifiers are not used twice, and an end tag names the element
that it ends. -/
def State.take (st : State) : Token → Option State
  | .startTag name attributes isEmpty => do
    if st.opened.isEmpty && st.reversed.any Node.isElement then none
    let (tag, scope) ← tag? st.scope name attributes
    let ids ← useIds? st.ids tag
    if isEmpty then return { st with reversed := .element tag [] :: st.reversed, ids }
    else return { opened := ⟨tag, scope, st.reversed⟩ :: st.opened, reversed := [], ids }
  | .endTag name =>
    match st.opened with
    | o :: opened =>
      if elementName? o.scope name = some o.tag.name then
        some { st with opened, reversed := .element o.tag st.reversed.reverse :: o.before }
      else none
    | [] => none
  | .text raw =>
    if st.opened.isEmpty then (if raw.all isSpace then some st else none)
    else (decodeText raw).bind st.addText
  | .literal value => st.addText value
  | .comment value => some (st.add (.comment (.ofList value)))
  | .instruction target data => some (st.add (.instruction (.ofList target) (dataOf data)))

/-- The document read, once no element is open and there is a root. -/
def State.document? (st : State) : Option Document :=
  if st.opened.isEmpty && st.reversed.any Node.isElement then some ⟨st.reversed.reverse⟩ else none

/-! ## The declaration of a document -/

/-- Blanks between the parts of a declaration; none are needed before its end. -/
def gap? (s : List Char) : Option (List Char) :=
  if s.head?.any isSpace then some (Token.skipSpace s)
  else if (Token.afterWord? "?>".toList s).isSome then some s
  else none

/-- A part of a declaration, with the value in quotes that satisfies `p`; the part may be absent. -/
def part? (word : List Char) (p : List Char → Bool) (s : List Char) : Option (List Char) :=
  match Token.afterWord? word s with
  | none => some s
  | some rest => do
    let (value, rest) ← Token.quotedValue? (← Token.equals? rest)
    if p value then gap? rest else none

/-- Characters in the name of an encoding. -/
def isEncodingChar (c : Char) : Bool := c.isAlphanum || c == '.' || c == '-' || c == '_'

/-- The text after a document's declaration, if it begins with one.  The version is 1.0; the
encoding and whether the document stands alone make no difference. -/
def afterDeclaration? (s : List Char) : Option (List Char) :=
  match Token.afterWord? "<?xml ".toList s with
  | none => some s
  | some rest => do
    let rest := Token.skipSpace rest
    let _ ← Token.afterWord? "version".toList rest
    let rest ← part? "version".toList (· == "1.0".toList) rest
    let rest ← part? "encoding".toList (·.all isEncodingChar) rest
    let rest ← part? "standalone".toList (["yes".toList, "no".toList].contains ·) rest
    Token.afterWord? "?>".toList (Token.skipSpace rest)

/-- The text without a leading byte order mark. -/
def skipByteOrderMark (s : List Char) : List Char :=
  if s.head? = some '\uFEFF' then s.tail else s

/-- Reads a document from characters. -/
def readChars (s : List Char) : Option Document := do
  let rest ← afterDeclaration? (skipByteOrderMark s)
  let tokens ← Token.scan? rest
  let st ← tokens.foldlM State.take State.start
  st.document?

end Reader

/-- Reads a document. -/
def Document.read (text : String) : Except Error Document :=
  match Reader.readChars text.toList with
  | some d => .ok d
  | none => .error .malformedXml

/-- The address of the root element, which must be there. -/
def Document.root (d : Document) : Except Error Address :=
  match d.rootAddress? with
  | some a => .ok a
  | none => .error .noRootElement

end Regraft.Xml
