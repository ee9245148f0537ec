import Regraft.Text.Replace
import Regraft.Xml.Character
/-!
# Tokens of markup

A document is first divided into tags, runs of text, sections of literal text, comments and instructions.
Names are divided at their colon here; what texts and values stand for is left to later.  A text that is not
made of tokens has no division at all.
-/

namespace Regraft.Xml

/-- A name as written, divided at its colon; without one, the prefix is empty. -/
structure RawName where
  namespacePrefix : String
  localPart : String
  deriving DecidableEq, Repr

/-- A name divided at its first colon.  Both parts begin as names do, and only the first may be empty. -/
def RawName.ofChars? (s : List Char) : Option RawName :=
  let (p, l) := (Text.splitOnce? ':' s).getD ([], s)
  if p.head?.all isNameStart && l.head?.any isNameStart && !l.contains ':' then
    some ⟨.ofList p, .ofList l⟩
  else none

/-- An attribute as written. -/
structure RawAttribute where
  name : RawName
  value : List Char
  deriving DecidableEq, Repr

/-- The parts of a document. -/
inductive Token where
  | startTag (name : RawName) (attributes : List RawAttribute) (isEmpty : Bool)
  | endTag (name : RawName)
  | text (raw : List Char)
  | literal (value : List Char)
  | comment (value : List Char)
  | instruction (target : List Char) (data : List Char)
  deriving DecidableEq, Repr

namespace Token

/-- Reads from the text that is left. -/
abbrev Reader (α : Type) := List Char → Option (α × List Char)

/-- The text after a word that it begins with. -/
def afterWord? (word : List Char) (s : List Char) : Option (List Char) :=
  if word.isPrefixOf s then some (s.drop word.length) else none

/-- The text before and after the first occurrence of a word. -/
def splitAtWord? (word : List Char) : List Char → Option (List Char × List Char)
  | [] => if word.isEmpty then some ([], []) else none
  | c :: rest =>
    match afterWord? word (c :: rest) with
    | some after => some ([], after)
    | none => (splitAtWord? word rest).map fun (a, b) => (c :: a, b)

/-- The text without leading blanks. -/
def skipSpace (s : List Char) : List Char := s.dropWhile isSpace

/-- Reads a name. -/
def rawName? : Reader RawName := fun s =>
  (RawName.ofChars? (s.takeWhile isNameChar)).map fun n => (n, s.dropWhile isNameChar)

/-- Reads an equals sign and the blanks around it. -/
def equals? (s : List Char) : Option (List Char) := (afterWord? ['='] (skipSpace s)).map skipSpace

/-- Reads the value of an attribute between quotes. -/
def quotedValue? : Reader (List Char)
  | [] => none
  | q :: rest =>
    if q = '"' ∨ q = '\'' then
      let value := rest.takeWhile (· != q)
      match rest.dropWhile (· != q) with
      | [] => none
      | _ :: after => if value.all fun c => isXmlChar c && c != '<' then some (value, after) else none
    else none

/-- Reads the attributes of a start tag and its end.  A blank precedes every attribute, and the two
characters that end an empty tag touch. -/
def attributes? : Nat → Reader (List RawAttribute × Bool)
  | 0, _ => none
  | fuel + 1, s =>
    match skipSpace s with
    | '/' :: '>' :: rest => some (([], true), rest)
    | '>' :: rest => some (([], false), rest)
    | rest =>
      if s.head?.any isSpace then do
        let (name, rest) ← rawName? rest
        let (value, rest) ← quotedValue? (← equals? rest)
        let ((more, isEmpty), rest) ← attributes? fuel rest
        return ((⟨name, value⟩ :: more, isEmpty), rest)
      else none

/-- Reads a start tag after its bracket.  No other bracket stands in it, so it has at most as many attributes
as there are characters before the next one. -/
def startTag? : Reader Token := fun s => do
  let (name, rest) ← rawName? s
  let ((attributes, isEmpty), rest) ← attributes? ((rest.takeWhile (· != '<')).length + 1) rest
  return (.startTag name attributes isEmpty, rest)

/-- Reads an end tag after its bracket and slash. -/
def endTag? : Reader Token := fun s => do
  let (name, rest) ← rawName? s
  let rest ← afterWord? ['>'] (skipSpace rest)
  return (.endTag name, rest)

/-- Reads a comment after its opening.  Two dashes end it, so neither are there two inside nor one at the
end. -/
def comment? : Reader Token := fun s => do
  let (value, rest) ← splitAtWord? "-->".toList s
  if value.all isXmlChar && (splitAtWord? "--".toList value).isNone && value.getLast? != some '-' then
    return (.comment value, rest)
  else none

/-- Reads a section of literal text after its opening. -/
def literal? : Reader Token := fun s => do
  let (value, rest) ← splitAtWord? "]]>".toList s
  if value.all isXmlChar then return (.literal value, rest) else none

/-- Reads an instruction after its opening.  A document's declaration is not one. -/
def instruction? : Reader Token := fun s => do
  if (afterWord? "xml ".toList s).isSome then none
  let target := s.takeWhile isNameChar
  let (data, rest) ← splitAtWord? "?>".toList (skipSpace (s.dropWhile isNameChar))
  if target.head?.any isNameStart && data.all isXmlChar then return (.instruction target data, rest) else none

/-- Reads a run of text.  The end of a literal section does not stand in it. -/
def text? : Reader Token := fun s =>
  let raw := s.takeWhile (· != '<')
  if raw.all isXmlChar && (splitAtWord? "]]>".toList raw).isNone then
    some (.text raw, s.dropWhile (· != '<'))
  else none

/-- Reads one token from a text that is not empty. -/
def next? (s : List Char) : Option (Token × List Char) :=
  match s with
  | '<' :: '!' :: '-' :: '-' :: rest => comment? rest
  | '<' :: '!' :: rest => (afterWord? "[CDATA[".toList rest).bind literal?
  | '<' :: '?' :: rest => instruction? rest
  | '<' :: '/' :: rest => endTag? rest
  | '<' :: rest => startTag? rest
  | s => text? s

/-- Divides a text into tokens, of which there are at most as many as characters. -/
def scanFrom : Nat → List Char → Option (List Token)
  | _, [] => some []
  | 0, _ => none
  | fuel + 1, s => do
    let (token, rest) ← next? s
    return token :: (← scanFrom fuel rest)

/-- Divides a text into tokens. -/
def scan? (s : List Char) : Option (List Token) := scanFrom s.length s

end Token

end Regraft.Xml
