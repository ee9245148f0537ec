import Regraft.Json.Value
/-!
# Reading JSON

Every reader takes the text that is left and returns what it read with the text left after it.
-/

namespace Regraft.Json.Reader

/-- Reads from the text that is left. -/
abbrev Reading (α : Type) := List Char → Option (α × List Char)

/-- Blanks between the parts of a value. -/
def isSpace (c : Char) : Bool := c == ' ' || c == '\n' || c == '\t' || c == '\r'

/-- The text without leading blanks. -/
def skipSpace (s : List Char) : List Char := s.dropWhile isSpace

/-- The text after a word that it begins with. -/
def afterWord? (word : List Char) (s : List Char) : Option (List Char) :=
  if word.isPrefixOf s then some (s.drop word.length) else none

/-! ## Texts -/

/-- The value of a hexadecimal digit. -/
def hexDigit? (c : Char) : Option Nat :=
  if '0' ≤ c ∧ c ≤ '9' then some (c.toNat - '0'.toNat)
  else if 'a' ≤ c ∧ c ≤ 'f' then some (c.toNat - 'a'.toNat + 10)
  else if 'A' ≤ c ∧ c ≤ 'F' then some (c.toNat - 'A'.toNat + 10)
  else none

/-- A part of a text: a character, or a unit of sixteen bits that an escape gives. -/
inductive Unit16 where
  | char (c : Char)
  | unit (n : Nat)
  deriving DecidableEq, Repr

/-- Reads the four digits of an escape. -/
def unit? : Reading Unit16
  | a :: b :: c :: d :: rest => do
    let n := ((← hexDigit? a) * 16 + (← hexDigit? b)) * 16 + (← hexDigit? c)
    return (.unit (n * 16 + (← hexDigit? d)), rest)
  | _ => none

/-- Reads an escape after its backslash. -/
def escape? : Reading Unit16
  | 'u' :: rest => unit? rest
  | c :: rest =>
    (([('"', '"'), ('\\', '\\'), ('/', '/'), ('b', '\x08'), ('f', '\x0c'), ('n', '\n'), ('r', '\r'),
      ('t', '\t')] : List (Char × Char)).lookup c).map fun d => (.char d, rest)
  | [] => none

/-- Reads the parts of a text up to its closing quote. -/
def units? : Nat → Reading (List Unit16)
  | 0, _ => none
  | fuel + 1, s =>
    match s with
    | [] => none
    | '"' :: rest => some ([], rest)
    | '\\' :: rest => do
      let (u, rest) ← escape? rest
      let (more, rest) ← units? fuel rest
      return (u :: more, rest)
    | c :: rest =>
      if c.toNat < 0x20 then none
      else do
        let (more, rest) ← units? fuel rest
        return (.char c :: more, rest)

/-- The characters of a text, if every unit that is half of one stands beside its other half. -/
def join? : List Unit16 → Option (List Char)
  | [] => some []
  | .char c :: rest => (join? rest).map (c :: ·)
  | [.unit n] => if n.isValidChar then some [Char.ofNat n] else none
  | .unit n :: .unit m :: rest =>
    if n.isValidChar then (join? (.unit m :: rest)).map (Char.ofNat n :: ·)
    else if n < 0xDC00 ∧ 0xDC00 ≤ m ∧ m < 0xE000 then
      (join? rest).map (Char.ofNat (0x10000 + (n - 0xD800) * 0x400 + (m - 0xDC00)) :: ·)
    else none
  | .unit n :: .char c :: rest =>
    if n.isValidChar then (join? (.char c :: rest)).map (Char.ofNat n :: ·) else none

/-- Reads a text after its opening quote. -/
def text? : Reading (Option String) := fun s => do
  let (units, rest) ← units? (s.length + 1) s
  return ((join? units).map String.ofList, rest)

/-! ## Numbers -/

/-- The digits that a text begins with. -/
def digitsOf (s : List Char) : List Nat := (s.takeWhile Char.isDigit).map fun c => c.toNat - '0'.toNat

/-- The number that digits spell. -/
def digitsValue (digits : List Nat) : Nat := digits.foldl (10 * · + ·) 0

/-- Reads digits, of which there is at least one. -/
def digits? : Reading (List Nat) := fun s =>
  if (digitsOf s).isEmpty then none else some (digitsOf s, s.dropWhile Char.isDigit)

/-- Reads the whole part of a number, which begins with a zero only if it is zero. -/
def wholePart? : Reading (List Nat)
  | '0' :: rest => if rest.head?.any Char.isDigit then none else some ([0], rest)
  | s => digits? s

/-- Reads the digits after a point, if there is one. -/
def fraction? : Reading (List Nat)
  | '.' :: rest => digits? rest
  | s => some ([], s)

/-- Reads a signed exponent. -/
def signedExponent? : Reading Int
  | '-' :: rest => (digits? rest).map fun (ds, rest) => (-(digitsValue ds : Int), rest)
  | '+' :: rest => (digits? rest).map fun (ds, rest) => ((digitsValue ds : Int), rest)
  | s => (digits? s).map fun (ds, rest) => ((digitsValue ds : Int), rest)

/-- Reads an exponent, if there is one. -/
def exponent? : Reading Int
  | 'e' :: rest => signedExponent? rest
  | 'E' :: rest => signedExponent? rest
  | s => some (0, s)

/-- Reads a number without its sign. -/
def number? : Reading Number := fun s => do
  let (whole, s) ← wholePart? s
  let (fraction, s) ← fraction? s
  let (exponent, s) ← exponent? s
  return (.ofDigits whole fraction exponent, s)

/-! ## Values -/

mutual

/-- Reads a value. -/
def value? : Nat → Reading Value
  | 0, _ => none
  | fuel + 1, s =>
    match skipSpace s with
    | '"' :: rest => (text? rest).map fun (t, rest) => (.text t, rest)
    | '[' :: rest =>
      match skipSpace rest with
      | ']' :: rest => some (.array [], rest)
      | rest => (elements? fuel rest).map fun (vs, rest) => (.array vs, rest)
    | '\x7b' :: rest =>
      match skipSpace rest with
      | '\x7d' :: rest => some (.object [], rest)
      | rest => (members? fuel rest).map fun (ms, rest) => (.object ms, rest)
    | '-' :: rest => (number? rest).map fun (n, rest) => (.number n, rest)
    | rest =>
      match afterWord? "null".toList rest, afterWord? "true".toList rest, afterWord? "false".toList rest with
      | some rest, _, _ => some (.null, rest)
      | _, some rest, _ => some (.bool true, rest)
      | _, _, some rest => some (.bool false, rest)
      | _, _, _ => (number? rest).map fun (n, rest) => (.number n, rest)

/-- Reads the elements of an array, of which there is at least one, up to its bracket. -/
def elements? : Nat → Reading (List Value)
  | 0, _ => none
  | fuel + 1, s => do
    let (v, rest) ← value? fuel s
    match skipSpace rest with
    | ',' :: rest => do
      let (more, rest) ← elements? fuel rest
      return (v :: more, rest)
    | ']' :: rest => return ([v], rest)
    | _ => none

/-- Reads the members of an object, of which there is at least one, up to its brace. -/
def members? : Nat → Reading (List (Option String × Value))
  | 0, _ => none
  | fuel + 1, s =>
    match skipSpace s with
    | '"' :: rest => do
      let (key, rest) ← text? rest
      let rest ← afterWord? [':'] (skipSpace rest)
      let (v, rest) ← value? fuel rest
      match skipSpace rest with
      | ',' :: rest => do
        let (more, rest) ← members? fuel rest
        return ((key, v) :: more, rest)
      | '\x7d' :: rest => return ([(key, v)], rest)
      | _ => none
    | _ => none

end

end Regraft.Json.Reader

namespace Regraft.Json

/-- Reads a JSON text. -/
def Value.parse (text : String) : Option Value := do
  let s := text.toList
  let (v, rest) ← Reader.value? (2 * s.length + 2) s
  if (Reader.skipSpace rest).isEmpty then some v else none

end Regraft.Json
