import Regraft.Error
import Regraft.Path.Basic
/-!
# Reading paths

The grammar, in which white space is allowed nowhere else:

    path      := step ('/' step)*
    step      := test predicate*
    test      := '.' | '..' | '*' | 'text()' | '@' name | name
    name      := ncname (':' ncname)?
    predicate := '[' ws (integer | path (ws ('=' | '!=') ws literal)?) ws ']'

A parser keeps its place in the text as a number of bytes, which it moves by the size of a character that it
has seen or by a fixed number.  Whatever it reads is a slice of the text between two such places, and there is
no slice that begins or ends inside a character or past the end: asking for one is a fault of the parser
itself (`Halt.badSlice`).  Its loops and its recursion are bounded, and a bound that is too low is another
(`Halt.exhausted`).
-/

namespace Regraft.Path

/-! ## Slices -/

/-- The characters of a text from a number of bytes on, if it leads to a character or to the end. -/
def charsFrom? : List Char → Nat → Option (List Char)
  | s, 0 => some s
  | [], _ + 1 => none
  | c :: s, n + 1 => if c.utf8Size ≤ n + 1 then charsFrom? s (n + 1 - c.utf8Size) else none

/-- The characters of a text before a number of bytes, if it leads to a character or to the end. -/
def charsBefore? : List Char → Nat → Option (List Char)
  | _, 0 => some []
  | [], _ + 1 => none
  | c :: s, n + 1 =>
    if c.utf8Size ≤ n + 1 then (charsBefore? s (n + 1 - c.utf8Size)).map (c :: ·) else none

/-- The characters of a text between two places, if both are places of characters and in order. -/
def slice? (s : List Char) (start stop : Nat) : Option (List Char) :=
  if start ≤ stop then (charsFrom? s start).bind (charsBefore? · (stop - start)) else none

/-- Why a parser does not go on. -/
inductive Halt where
  /-- The text is no path; the place where the parser stood tells where. -/
  | malformed (fault : PathFault) (position : Nat)
  /-- A slice was asked for that does not exist. -/
  | badSlice
  /-- A bound of a loop or of the recursion was reached. -/
  | exhausted
  deriving DecidableEq, Repr

/-- Reads a text from the place where the parser stands. -/
abbrev Parser (α : Type) := ReaderT (List Char) (StateT Nat (Except Halt)) α

namespace Parser

/-! ## Moving in the text -/

/-- What exists of a slice. -/
def exactly {α : Type} (slice? : Option α) : Parser α := fun _ pos =>
  match slice? with
  | some s => .ok (s, pos)
  | none => .error .badSlice

/-- Stops here. -/
def fail {α : Type} (fault : PathFault) : Parser α := fun _ pos => .error (.malformed fault pos)

/-- Reaches a bound. -/
def exhaust {α : Type} : Parser α := fun _ _ => .error .exhausted

/-- The slice from here to the end. -/
def remaining : Parser (List Char) := do exactly (charsFrom? (← read) (← get))

/-- The slice between two places. -/
def slice (start stop : Nat) : Parser String := do
  return .ofList (← exactly (slice? (← read) start stop))

/-- The next character. -/
def peek : Parser (Option Char) := do return (← remaining).head?

/-- The character after the next. -/
def peekSecond : Parser (Option Char) := do return (← remaining)[1]?

/-- Moves on by a number of bytes. -/
def advance (bytes : Nat) : Parser Unit := modify (· + bytes)

/-- Takes the next character. -/
def bump : Parser (Option Char) := do
  match ← peek with
  | some c =>
    advance c.utf8Size
    return some c
  | none => return none

/-- Takes the next character if it is the expected one. -/
def eat (expected : Char) : Parser Bool := do
  if (← peek) = some expected then
    advance expected.utf8Size
    return true
  else return false

/-- Whether a text comes next. -/
def startsWith (text : String) : Parser Bool := do return text.toList.isPrefixOf (← remaining)

/-- Takes characters while they are of a kind, so many at most. -/
def bumpWhile (p : Char → Bool) : Nat → Parser Unit
  | 0 => exhaust
  | bound + 1 => do
    if (← peek).any p then
      let _ ← bump
      bumpWhile p bound

/-- Takes all characters of a kind that come next. -/
def skip (p : Char → Bool) : Parser Unit := do bumpWhile p ((← read).length + 1)

/-- Takes white space. -/
def skipBlank : Parser Unit := skip Unicode.isBlank

/-! ## Names -/

/-- Characters that a name begins with. -/
def isNameStart (c : Char) : Bool := Unicode.isAlphabetic c || c == '_'

/-- Characters that a name goes on with. -/
def isNameChar (c : Char) : Bool := Unicode.isAlphanumeric c || c == '_' || c == '-' || c == '.'

/-- Takes the character that a name begins with. -/
def nameStart : Parser Unit := do
  match ← peek with
  | some c =>
    if isNameStart c then
      let _ ← bump
    else fail (.notNameStart c)
  | none => fail .nameExpected

/-- Reads a name without a colon. -/
def ncname : Parser String := do
  let start ← get
  nameStart
  skip isNameChar
  slice start (← get)

/-- Reads a name with or without a prefix. -/
def name : Parser Name := do
  let first ← ncname
  if (← peek) = some ':' then
    let _ ← bump
    let second ← ncname
    return ⟨some first, second⟩
  else return ⟨none, first⟩

/-! ## Steps -/

/-- Reads a test that begins with a name. -/
def named : Parser Test := do
  let n ← name
  if n = ⟨none, "text"⟩ then
    if ← startsWith "()" then
      advance 2
      return .text
    else return .element n
  else return .element n

/-- Reads the test of a step. -/
def test : Parser Test := do
  match ← peek with
  | none => fail .emptyStep
  | some '/' => fail .emptyStep
  | some '.' =>
    if (← peekSecond) = some '.' then
      advance 2
      return .parent
    else
      let _ ← bump
      return .here
  | some '*' =>
    let _ ← bump
    return .anyElement
  | some '@' =>
    let _ ← bump
    return .attribute (← name)
  | some _ => named

/-- The digits of numbers. -/
def isDigit (c : Char) : Bool := '0' ≤ c && c ≤ '9'

/-- The number that digits spell. -/
def digitsValue (digits : List Char) : Nat := digits.foldl (fun n c => 10 * n + (c.toNat - '0'.toNat)) 0

/-- The largest position: the largest number of sixty-four bits. -/
def maxPosition : Nat := 18446744073709551615

/-- Reads a position, whose first digit has been seen. -/
def position : Parser Predicate := do
  let start ← get
  skip isDigit
  let n := digitsValue (← slice start (← get)).toList
  if maxPosition < n then fail .positionTooLarge
  else if n = 0 then fail .positionZero
  else return .position n

/-- Takes characters up to a quote and the quote, so many at most. -/
def closeQuote (quote : Char) : Nat → Parser Unit
  | 0 => exhaust
  | bound + 1 => do
    match ← bump with
    | some c => if c = quote then return () else closeQuote quote bound
    | none => fail .literalNotClosed

/-- Reads a literal in single or double quotes.  The slice ends before the quote that has been taken. -/
def literal : Parser String := do
  match ← bump with
  | some quote =>
    if quote = '"' ∨ quote = '\'' then
      let start ← get
      closeQuote quote ((← read).length + 1)
      let stop ← get
      if quote.utf8Size ≤ stop then slice start (stop - quote.utf8Size) else exactly none
    else fail .literalExpected
  | none => fail .literalExpected

/-- Reads what may follow the path of a predicate: a comparison with a literal. -/
def comparison (p : Path) : Parser Predicate := do
  skipBlank
  if ← eat '=' then
    skipBlank
    return .equals p (← literal)
  else if ← startsWith "!=" then
    advance 2
    skipBlank
    return .differs p (← literal)
  else return .exists p

/-- Takes the bracket that ends a predicate. -/
def closeBracket : Parser Unit := do
  match ← bump with
  | some c => if c = ']' then return () else fail (.unexpectedInPredicate c)
  | none => fail .bracketNotClosed

mutual

/-- Reads a path of one or more steps. -/
def path : Nat → Parser Path
  | 0 => exhaust
  | bound + 1 => do
    let start ← get
    let first ← step bound
    let more ← stepsAfter bound
    return ⟨← slice start (← get), first :: more⟩

/-- Reads further steps, each after a slash. -/
def stepsAfter : Nat → Parser (List Step)
  | 0 => exhaust
  | bound + 1 => do
    if ← eat '/' then
      let next ← step bound
      let more ← stepsAfter bound
      return next :: more
    else return []

/-- Reads a test and the predicates that follow it. -/
def step : Nat → Parser Step
  | 0 => exhaust
  | bound + 1 => do
    let start ← get
    let t ← test
    let ps ← predicates bound
    return ⟨← slice start (← get), t, ps⟩

/-- Reads predicates, each in brackets. -/
def predicates : Nat → Parser (List Predicate)
  | 0 => exhaust
  | bound + 1 => do
    if ← eat '[' then
      skipBlank
      let p ← predicate bound
      skipBlank
      closeBracket
      let more ← predicates bound
      return p :: more
    else return []

/-- Reads the inside of a predicate. -/
def predicate : Nat → Parser Predicate
  | 0 => exhaust
  | bound + 1 => do
    if (← peek).any isDigit then position
    else
      let p ← path bound
      comparison p

end

/-- A bound of the recursion that suffices for a text: from one bracket to the next one inside it the recursion
goes five deep. -/
def boundFor (s : List Char) : Nat := 5 * s.length + 5

/-- Sees that nothing is left. -/
def atEnd : Parser Unit := do
  match ← peek with
  | none => return ()
  | some ']' => fail .bracketNotOpened
  | some c => fail (.unexpected c)

/-- Reads a path.  The empty text is the path without steps. -/
def pathOrEmpty : Parser Path := do
  let text ← read
  if text.isEmpty then return ⟨"", []⟩ else path (boundFor text)

/-- Reads a whole text. -/
def whole : Parser Path := do
  let p ← pathOrEmpty
  atEnd
  return p

/-- What becomes of a text from its first byte on. -/
def run (text : String) : Except Halt Path := (whole text.toList 0).map Prod.fst

end Parser

/-- The error for a text that is no path.  A parser that slices within the text and has bounds that suffice halts
in no other way than the first. -/
def Halt.error (text : String) : Halt → Error
  | .malformed fault position => .malformedPath text position fault
  | .badSlice => .malformedPath text 0 .emptyStep
  | .exhausted => .malformedPath text 0 .emptyStep

/-- Reads a path. -/
def parse (text : String) : Except Error Path := (Parser.run text).mapError (·.error text)

end Regraft.Path
