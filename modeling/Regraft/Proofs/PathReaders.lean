import Regraft.Path.Parser
/-!
# Paths read from the text that is left

A parser keeps its place in a text as a number of bytes.  For proofs it is easier to hand the text on that is left: a
reader takes it and returns what it has read with the text left after it, and a failure carries the text that was left
where it arose.  Texts that are left can be taken apart by their first characters, and the equations of the readers are
those of the grammar.

The readers below do what the parser does, one for one, and go as deep as it goes.  That they agree with it is proved
in `Regraft.Proofs.PathPlaces`; whatever is said of paths that have been read is then said of readers.
-/

namespace Regraft.Path.Readers

open Regraft.Path.Parser (isNameStart isNameChar isDigit digitsValue maxPosition boundFor)

/-- A fault and the text left where it arose. -/
structure Stop where
  fault : PathFault
  left : List Char

/-- Reads from the text that is left. -/
abbrev Reader (α : Type) := List Char → Except Stop (α × List Char)

/-- The text from `s` up to where `rest` begins. -/
def consumed (s rest : List Char) : String := .ofList (s.take (s.length - rest.length))

theorem consumed_append (t rest : List Char) : consumed (t ++ rest) rest = .ofList t := by
  simp [consumed]

theorem consumed_dropWhile (p : Char → Bool) (t s : List Char) :
    consumed (t ++ s) (s.dropWhile p) = .ofList (t ++ s.takeWhile p) := by
  have h := consumed_append (t ++ s.takeWhile p) (s.dropWhile p)
  rwa [List.append_assoc, List.takeWhile_append_dropWhile] at h

/-- Reads a name without a colon. -/
def ncname : Reader String
  | [] => throw ⟨.nameExpected, []⟩
  | c :: rest =>
    if isNameStart c then
      pure (.ofList (c :: rest.takeWhile isNameChar), rest.dropWhile isNameChar)
    else throw ⟨.notNameStart c, c :: rest⟩

/-- Reads a name with or without a prefix. -/
def name : Reader Name := fun s => do
  let (first, s) ← ncname s
  match s with
  | ':' :: s =>
    let (second, s) ← ncname s
    pure (⟨some first, second⟩, s)
  | s => pure (⟨none, first⟩, s)

/-- Reads the test of a step. -/
def test : Reader Test
  | [] => throw ⟨.emptyStep, []⟩
  | '/' :: rest => throw ⟨.emptyStep, '/' :: rest⟩
  | '.' :: '.' :: rest => pure (.parent, rest)
  | '.' :: rest => pure (.here, rest)
  | '*' :: rest => pure (.anyElement, rest)
  | '@' :: rest => do
    let (n, rest) ← name rest
    pure (.attribute n, rest)
  | s => do
    let (n, rest) ← name s
    match rest with
    | '(' :: ')' :: rest' =>
      if n = ⟨none, "text"⟩ then pure (.text, rest') else pure (.element n, rest)
    | _ => pure (.element n, rest)

/-- The text without leading white space. -/
def skipBlank (s : List Char) : List Char := s.dropWhile Unicode.isBlank

/-- Reads a position, whose first digit has been seen. -/
def position : Reader Predicate := fun s =>
  let rest := s.dropWhile isDigit
  let n := digitsValue (s.takeWhile isDigit)
  if maxPosition < n then throw ⟨.positionTooLarge, rest⟩
  else if n = 0 then throw ⟨.positionZero, rest⟩
  else pure (.position n, rest)

/-- Reads a literal in single or double quotes. -/
def literal : Reader String
  | [] => throw ⟨.literalExpected, []⟩
  | q :: rest =>
    if q = '"' ∨ q = '\'' then
      match rest.dropWhile (· != q) with
      | [] => throw ⟨.literalNotClosed, []⟩
      | _ :: after => pure (.ofList (rest.takeWhile (· != q)), after)
    else throw ⟨.literalExpected, rest⟩

/-- Reads what may follow the path of a predicate: a comparison with a literal. -/
def comparison (p : Path) : Reader Predicate := fun s =>
  match skipBlank s with
  | '=' :: rest => do
    let (value, rest) ← literal (skipBlank rest)
    pure (.equals p value, rest)
  | '!' :: '=' :: rest => do
    let (value, rest) ← literal (skipBlank rest)
    pure (.differs p value, rest)
  | rest => pure (.exists p, rest)

/-- Reads the bracket that ends a predicate. -/
def closeBracket : Reader Unit
  | [] => throw ⟨.bracketNotClosed, []⟩
  | c :: rest => if c = ']' then pure ((), rest) else throw ⟨.unexpectedInPredicate c, rest⟩

mutual

/-- Reads a path of one or more steps. -/
def path : Nat → Reader Path
  | 0, s => throw ⟨.emptyStep, s⟩
  | fuel + 1, s => do
    let (first, rest) ← step fuel s
    let (more, rest) ← stepsAfter fuel rest
    pure (⟨consumed s rest, first :: more⟩, rest)

/-- Reads further steps, each after a slash. -/
def stepsAfter : Nat → Reader (List Step)
  | 0, s => throw ⟨.emptyStep, s⟩
  | fuel + 1, s =>
    match s with
    | '/' :: rest => do
      let (next, rest) ← step fuel rest
      let (more, rest) ← stepsAfter fuel rest
      pure (next :: more, rest)
    | rest => pure ([], rest)

/-- Reads a test and the predicates that follow it. -/
def step : Nat → Reader Step
  | 0, s => throw ⟨.emptyStep, s⟩
  | fuel + 1, s => do
    let (t, rest) ← test s
    let (ps, rest) ← predicates fuel rest
    pure (⟨consumed s rest, t, ps⟩, rest)

/-- Reads predicates, each in brackets. -/
def predicates : Nat → Reader (List Predicate)
  | 0, s => throw ⟨.emptyStep, s⟩
  | fuel + 1, s =>
    match s with
    | '[' :: rest => do
      let (p, rest) ← predicate fuel (skipBlank rest)
      let ((), rest) ← closeBracket (skipBlank rest)
      let (more, rest) ← predicates fuel rest
      pure (p :: more, rest)
    | rest => pure ([], rest)

/-- Reads the inside of a predicate. -/
def predicate : Nat → Reader Predicate
  | 0, s => throw ⟨.emptyStep, s⟩
  | fuel + 1, s =>
    if s.head?.any isDigit then position s
    else do
      let (p, rest) ← path fuel s
      comparison p rest

end

/-- Sees that nothing is left. -/
def atEnd : Reader Unit
  | [] => pure ((), [])
  | ']' :: rest => throw ⟨.bracketNotOpened, ']' :: rest⟩
  | c :: rest => throw ⟨.unexpected c, c :: rest⟩

/-- Reads a path.  The empty text is the path without steps. -/
def pathOrEmpty : Reader Path := fun s => if s.isEmpty then pure (⟨"", []⟩, s) else path (boundFor s) s

/-- Reads a whole text. -/
def whole : Reader Path := fun s => do
  let (p, rest) ← pathOrEmpty s
  let ((), rest) ← atEnd rest
  pure (p, rest)

end Regraft.Path.Readers
