import Regraft.Pattern.PropertyName
import Regraft.Pattern.Size
/-!
# Reading patterns

The grammar of regular expressions.  Flags are in force from where they are written to the end of the group
they are written in.  A text that is not a pattern, one that nests too deeply and one that would compile to
too much have no expression at all.
-/

namespace Regraft.Pattern.Parser

open Unicode (CharSet)

/-- The flags in force. -/
structure Flags where
  ignoreCase : Bool
  multiLine : Bool
  dotMatchesAll : Bool
  crlf : Bool
  swapGreed : Bool
  unicode : Bool
  ignoreSpace : Bool

/-- The flags at the beginning of a pattern. -/
def Flags.initial : Flags := ⟨false, false, false, false, false, true, false⟩

/-- Where reading stands: the text left, the flags, the number of groups begun and their names. -/
structure State where
  left : List Char
  flags : Flags
  groups : Nat
  names : List String

/-- Reads where reading stands. -/
abbrev Reader (α : Type) := State → Option (α × State)

/-- An expression with the depth of its nesting and whether it can be repeated. -/
structure Part where
  regex : Regex
  depth : Nat
  repeatable : Bool

/-- The deepest nesting. -/
def nestLimit : Nat := 250

/-- Drops a comment up to the end of its line. -/
def skipComment (s : List Char) : List Char := s.dropWhile (· != '\n')

/-- Drops blanks, and comments that begin with a hash, one at a time. -/
def skipSpaceFrom : Nat → List Char → List Char
  | fuel + 1, c :: rest =>
    if Unicode.isBlank c then skipSpaceFrom fuel rest
    else if c = '#' then skipSpaceFrom fuel (skipComment rest)
    else c :: rest
  | _, s => s

/-- Drops blanks and comments where the flags say that they mean nothing. -/
def State.skipSpace (st : State) : State :=
  if st.flags.ignoreSpace then { st with left := skipSpaceFrom st.left.length st.left } else st

/-- Where reading stands after one character, and the blanks that mean nothing. -/
def State.bump (st : State) : State := State.skipSpace { st with left := st.left.tail }

/-- The first character that is not blank; after a hash, the first one that is not blank again, whatever it
is. -/
def firstVisible? : Bool → List Char → Option Char
  | _, [] => none
  | afterHash, c :: rest =>
    if Unicode.isBlank c then firstVisible? afterHash rest
    else if !afterHash && c == '#' then firstVisible? true rest
    else some c

/-- The character that is expected after the next one. -/
def State.second? (st : State) : Option Char :=
  let after := st.left.tail
  if st.flags.ignoreSpace then (firstVisible? false after).or after.head? else after.head?

/-- A set under the flags: with the characters that differ from its own in case, if case is ignored. -/
def Flags.fold (f : Flags) (s : CharSet) : CharSet :=
  if f.ignoreCase then (if f.unicode then s.fold else s.foldAscii) else s

/-- A set that the flags accept: without characters of all scripts, it holds none beyond ASCII. -/
def Flags.accept (f : Flags) (s : CharSet) : Option CharSet := if f.unicode || s.isAscii then some s else none

/-- A set or all that is not in it, with what differs in case, if the flags accept that. -/
def Flags.close (f : Flags) (negated : Bool) (s : CharSet) : Option CharSet :=
  f.accept (if negated then (f.fold s).complement else f.fold s)

/-! ## Escapes -/

/-- What an escape stands for. -/
inductive Escape where
  | char (c : Char)
  /-- A character given by two hexadecimal digits. -/
  | byte (c : Char)
  | classOf (s : CharSet)
  | look (l : Look)

/-- The value of a hexadecimal digit. -/
def hexDigit? (c : Char) : Option Nat :=
  if '0' ≤ c ∧ c ≤ '9' then some (c.toNat - '0'.toNat)
  else if 'a' ≤ c ∧ c ≤ 'f' then some (c.toNat - 'a'.toNat + 10)
  else if 'A' ≤ c ∧ c ≤ 'F' then some (c.toNat - 'A'.toNat + 10)
  else none

/-- The character whose code point hexadecimal digits spell. -/
def hexChar? (digits : List Char) : Option Char := do
  if digits.isEmpty then none
  let n ← digits.foldlM (fun n c => (hexDigit? c).map (16 * n + ·)) 0
  if n.isValidChar then some (Char.ofNat n) else none

/-- Reads a number of hexadecimal digits, between which blanks may mean nothing. -/
def hexDigits : Nat → Reader (List Char)
  | 0, st => some ([], st)
  | n + 1, st =>
    match st.left with
    | c :: rest => do
      let _ ← hexDigit? c
      let after := if n = 0 then { st with left := rest } else st.bump
      let (more, st) ← hexDigits n after
      return (c :: more, st)
    | [] => none

/-- Reads up to a closing brace, between which and its opening blanks may mean nothing. -/
def untilBrace : Nat → Reader (List Char)
  | 0, _ => none
  | fuel + 1, st =>
    match st.left with
    | [] => none
    | '\x7d' :: rest => some ([], { st with left := rest })
    | c :: _ => do
      let (more, st) ← untilBrace fuel st.bump
      return (c :: more, st)

/-- Reads the code point of a character after its letter: `digits` digits, or any number in braces. -/
def codePoint (digits : Nat) : Reader Escape := fun st =>
  match st.left with
  | '\x7b' :: _ => do
    let (body, st) ← untilBrace st.left.length st.bump
    return (.char (← hexChar? body), st)
  | _ => do
    let (body, st) ← hexDigits digits st
    let c ← hexChar? body
    return (if digits = 2 then .byte c else .char c, st)

/-- Reads the name of a property after its letter: one character, or any number in braces. -/
def propertyEscape (negated : Bool) : Reader Escape := fun st => do
  let ((set, unequal), st) ← match st.left with
    | '\x7b' :: _ => do
      let (body, st) ← untilBrace st.left.length st.bump
      pure (← propertyClass? body, st)
    | '\\' :: _ => none
    | c :: rest => do pure ((← propertyNamed? (normalizeName [c]), false), { st with left := rest })
    | [] => none
  if !st.flags.unicode then none
  return (.classOf (← st.flags.close (negated != unequal) set), st)

/-- Characters that stand for themselves after a backslash. -/
def isEscapable (c : Char) : Bool :=
  c.toNat < 0x80 && !c.isAlphanum && c != '<' && c != '>'

/-- Reads what may qualify a word boundary in braces.  Braces with anything else count repetitions. -/
def boundaryKind : Reader Look := fun st =>
  let ascii := !st.flags.unicode
  match st.left with
  | '\x7b' :: _ =>
    let inner := st.bump
    let isLetter (c : Char) : Bool := c.isAlpha || c == '-'
    if inner.left.isEmpty then none
    else if !inner.left.head?.any isLetter then some (.wordBoundary ascii, st)
    else do
      let (body, st) ← untilBrace inner.left.length inner
      match String.ofList body with
      | "start" => return (.wordStart ascii, st)
      | "end" => return (.wordEnd ascii, st)
      | "start-half" => return (.wordStartHalf ascii, st)
      | "end-half" => return (.wordEndHalf ascii, st)
      | _ => none
  | _ => some (.wordBoundary ascii, st)

/-- The set of a letter, in either of its two extents. -/
def letterClass (unicode : Bool) (c : Char) : Option CharSet :=
  match c with
  | 'd' => some (if unicode then .decimal else AsciiClass.digit)
  | 's' => some (if unicode then .space else AsciiClass.space)
  | 'w' => some (if unicode then .word else AsciiClass.word)
  | _ => none

/-- Reads an escape after its backslash. -/
def escape : Reader Escape := fun st =>
  match st.left with
  | [] => none
  | c :: rest =>
    let after := { st with left := rest }
    let ascii := !st.flags.unicode
    match letterClass st.flags.unicode c, letterClass st.flags.unicode c.toLower with
    | some s, _ => some (.classOf s, after)
    | none, some s => (st.flags.accept s.complement).map fun s => (.classOf s, after)
    | none, none =>
      if isEscapable c then some (.char c, after)
      else
        match c with
        | 'x' => codePoint 2 st.bump
        | 'u' => codePoint 4 st.bump
        | 'U' => codePoint 8 st.bump
        | 'p' => propertyEscape false st.bump
        | 'P' => propertyEscape true st.bump
        | 'a' => some (.char '\x07', after)
        | 'f' => some (.char '\x0c', after)
        | 't' => some (.char '\t', after)
        | 'n' => some (.char '\n', after)
        | 'r' => some (.char '\r', after)
        | 'v' => some (.char '\x0b', after)
        | 'A' => some (.look .textStart, after)
        | 'z' => some (.look .textEnd, after)
        | 'b' => (boundaryKind after).map fun (l, st) => (.look l, st)
        | 'B' => some (.look (.noWordBoundary ascii), after)
        | '<' => some (.look (.wordStart ascii), after)
        | '>' => some (.look (.wordEnd ascii), after)
        | _ => none

/-! ## Classes in brackets -/

/-- What joins the parts of a class. -/
inductive SetOperator where
  | intersection
  | difference
  | symmetricDifference

/-- The set that an operator makes of two. -/
def SetOperator.apply (a b : CharSet) : SetOperator → CharSet
  | intersection => a ∩ b
  | difference => a \ b
  | symmetricDifference => a.symmDiff b

/-- A member of a class: a character, which may begin a range, or a set. -/
inductive Member where
  | char (c : Char)
  | classOf (s : CharSet)

/-- Reads a member of a class. -/
def member : Reader Member := fun st =>
  match st.left with
  | [] => none
  | '\\' :: rest => do
    let (e, st) ← escape { st with left := rest }
    match e with
    | .char c | .byte c => if st.flags.unicode || c.toNat < 0x80 then return (.char c, st) else none
    | .classOf s => return (.classOf s, st)
    | .look _ => none
  | c :: rest =>
    if st.flags.unicode || c.toNat < 0x80 then some (.char c, { st with left := rest }) else none

/-- Reads a member of a class, or a range of characters. -/
def memberOrRange : Reader CharSet := fun st => do
  let (first, st) ← member st
  let st := st.skipSpace
  let toSet : Member → CharSet
    | .char c => .single c
    | .classOf s => s
  if st.left.isEmpty then none
  else if st.left.head? ≠ some '-' || st.second? = some ']' || st.second? = some '-' then
    return (toSet first, st)
  else do
    let (last, st) ← member st.bump
    match first, last with
    | .char a, .char b => if a ≤ b then return (.range a b, st) else none
    | _, _ => none

/-- Reads a class named between colons, after its bracket. -/
def namedClass : Reader CharSet := fun st =>
  match st.left with
  | ':' :: rest => do
    let negated := rest.head? = some '^'
    let rest := if negated then rest.tail else rest
    match rest.dropWhile (· != ':') with
    | ':' :: ']' :: after => do
      let s ← AsciiClass.named? (.ofList (rest.takeWhile (· != ':')))
      return (if negated then (st.flags.fold s).complement else st.flags.fold s, { st with left := after })
    | _ => none
  | _ => none

/-- Members of a class as read: their union, their number and how deep the deepest is nested. -/
structure Members where
  set : CharSet
  count : Nat
  depth : Nat

/-- No members. -/
def Members.none : Members := ⟨∅, 0, 0⟩

/-- With a further member. -/
def Members.add (s : CharSet) (depth : Nat) (m : Members) : Members :=
  ⟨m.set ∪ s, m.count + 1, max m.depth depth⟩

/-- A class as read: its set and how deep it is nested. -/
structure ReadClass where
  set : CharSet
  depth : Nat

/-- The class of some members.  Two or more are nested one deeper. -/
def Members.toClass (m : Members) : ReadClass := ⟨m.set, if m.count < 2 then m.depth else m.depth + 1⟩

/-- The class that an operator makes of two, which are nested one deeper. -/
def ReadClass.join (f : Flags) (o : SetOperator) (a b : ReadClass) : ReadClass :=
  ⟨o.apply (f.fold a.set) (f.fold b.set), max a.depth b.depth + 1⟩

/-- Reads dashes at the beginning of a class, which stand for themselves. -/
def leadingDashes : Nat → Members → Reader Members
  | 0, m, st => some (m, st)
  | fuel + 1, m, st =>
    if st.left.head? = some '-' then leadingDashes fuel (m.add (.single '-') 0) st.bump else some (m, st)

mutual

/-- Reads a class after its opening bracket. -/
def bracketed : Nat → Reader ReadClass
  | 0, _ => none
  | fuel + 1, st => do
    let st := st.skipSpace
    let negated := st.left.head? = some '^'
    let st := if negated then st.bump else st
    let (members, st) ← leadingDashes st.left.length .none st
    let (members, st) :=
      if members.count = 0 && st.left.head? = some ']' then (members.add (.single ']') 0, st.bump)
      else (members, st)
    let (c, st) ← classBody fuel none members st
    return (⟨← st.flags.close negated c.set, c.depth + 1⟩, st)

/-- Reads the members of a class up to its closing bracket.  `left?` is what stands before the last
operator, together with that operator, and `members` what has been read since. -/
def classBody : Nat → Option (ReadClass × SetOperator) → Members → Reader ReadClass
  | 0, _, _, _ => none
  | fuel + 1, left?, members, st =>
    let st := st.skipSpace
    let joined :=
      match left? with
      | some (a, operator) => a.join st.flags operator members.toClass
      | none => members.toClass
    let operator (o : SetOperator) : Option (ReadClass × State) :=
      classBody fuel (some (joined, o)) .none { st with left := st.left.drop 2 }
    match st.left with
    | [] => none
    | ']' :: rest => some (joined, { st with left := rest })
    | '&' :: '&' :: _ => operator .intersection
    | '-' :: '-' :: _ => operator .difference
    | '~' :: '~' :: _ => operator .symmetricDifference
    | '[' :: rest =>
      match namedClass { st with left := rest } with
      | some (s, st) => do classBody fuel left? (members.add (← st.flags.accept s) 0) st
      | none => do
        let (c, st) ← bracketed fuel { st with left := rest }
        classBody fuel left? (members.add c.set c.depth) st
    | _ => do
      let (s, st) ← memberOrRange st
      classBody fuel left? (members.add s 0) st

end

/-! ## Single characters and conditions -/

/-- The part that matches one character of a set, written under the flags. -/
def charPart (f : Flags) (s : CharSet) : Part := ⟨.char (!f.unicode) s, 0, true⟩

/-- The part that matches a character, or those that differ from it in case. -/
def literalPart (f : Flags) (c : Char) : Part :=
  charPart f (f.fold (.single c))

/-- The set of the dot. -/
def dotSet (f : Flags) : CharSet :=
  if f.dotMatchesAll then .all
  else if f.crlf then (CharSet.single '\r' ∪ .single '\n').complement
  else (CharSet.single '\n').complement

/-- The condition of the circumflex. -/
def startLook (f : Flags) : Look :=
  if f.multiLine then (if f.crlf then .lineStartCrlf else .lineStart) else .textStart

/-- The condition of the dollar sign. -/
def endLook (f : Flags) : Look :=
  if f.multiLine then (if f.crlf then .lineEndCrlf else .lineEnd) else .textEnd

/-- Reads a character, an escape or a condition. -/
def primitive : Reader Part := fun st =>
  match st.left with
  | [] => none
  | c :: rest =>
    let after := { st with left := rest }
    match c with
    | '\\' => do
      let (e, st) ← escape after
      match e with
      | .char c => return (literalPart st.flags c, st)
      | .byte c => if st.flags.unicode || c.toNat < 0x80 then return (literalPart st.flags c, st) else none
      | .classOf s => return (charPart st.flags s, st)
      | .look l => return (⟨.look l, 0, true⟩, st)
    | '.' => do return (charPart st.flags (← st.flags.accept (dotSet st.flags)), after)
    | '^' => some (⟨.look (startLook st.flags), 0, true⟩, after)
    | '$' => some (⟨.look (endLook st.flags), 0, true⟩, after)
    | c => some (literalPart st.flags c, after)

/-! ## Repetition -/

/-- The part repeated.  What matches no text is repeated once at most.  What is repeated no times is empty,
and its groups do not exist. -/
def repeatPart (greedy : Bool) (min : Nat) (max : Option Nat) (p : Part) : Part :=
  let (min, max) :=
    if p.regex.isBlank then (Nat.min min 1, some ((max.map (Nat.min · 1)).getD 1)) else (min, max)
  let regex :=
    if max = some 0 then .empty
    else if min = 1 ∧ max = some 1 then p.regex
    else .loop greedy min max p.regex
  ⟨regex, p.depth + 1, true⟩

/-- Reads the question mark that swaps a repetition's preference. -/
def greed : Reader Bool := fun st =>
  match st.left with
  | '?' :: rest => some (st.flags.swapGreed, { st with left := rest })
  | _ => some (!st.flags.swapGreed, st)

/-- The largest count of a repetition: the largest number of thirty-two bits. -/
def maxCount : Nat := 4294967295

/-- Drops blanks. -/
def State.skipBlanks (st : State) : State := { st with left := st.left.dropWhile Unicode.isBlank }

/-- Reads digits, between which blanks may mean nothing. -/
def digits : Nat → Reader (List Char)
  | 0, st => some ([], st)
  | fuel + 1, st =>
    match st.left with
    | c :: _ =>
      if '0' ≤ c ∧ c ≤ '9' then do
        let (more, st) ← digits fuel st.bump
        return (c :: more, st)
      else some ([], st)
    | [] => some ([], st)

/-- Reads a count with blanks around it. -/
def count : Reader Nat := fun st => do
  let (ds, st) ← digits st.left.length st.skipBlanks
  if ds.isEmpty then none
  let n := ds.foldl (fun n c => 10 * n + (c.toNat - '0'.toNat)) 0
  if maxCount < n then none else return (n, st.skipBlanks)

/-- Reads the counts of a repetition after its opening brace. -/
def counts : Reader (Nat × Option Nat) := fun st => do
  let (low, st) ← count st.skipSpace
  let (high, st) ← match st.left with
    | ',' :: _ =>
      let st := st.bump
      if st.left.head? = some '\x7d' then pure (none, st)
      else do
        let (n, st) ← count st
        pure (some n, st)
    | _ => pure (some low, st)
  match st.left with
  | '\x7d' :: _ => if high.all (low ≤ ·) then return ((low, high), st.bump) else none
  | _ => none

/-- Reads a repetition of the last of the parts read so far, which are held last first. -/
def repetition (parts : List Part) : Reader (List Part) := fun st =>
  match parts, st.left with
  | p :: before, c :: rest =>
    if !p.repeatable then none
    else do
      let after := { st with left := rest }
      let ((low, high), st) ← match c with
        | '?' => some ((0, some 1), after)
        | '*' => some ((0, none), after)
        | '+' => some ((1, none), after)
        | _ => counts after
      let (greedy, st) ← greed st
      return (repeatPart greedy low high p :: before, st)
  | _, _ => none

/-! ## Groups -/

/-- Reads the name of a group up to its closing bracket. -/
def groupName : Reader String := fun st => do
  let name := st.left.takeWhile (· != '>')
  let isFirst (c : Char) : Bool := c == '_' || Unicode.isAlphabetic c
  let isNext (c : Char) : Bool := c == '_' || c == '.' || c == '[' || c == ']' || Unicode.isAlphanumeric c
  match name, st.left.dropWhile (· != '>') with
  | c :: rest, _ :: after =>
    let text := String.ofList name
    if isFirst c && rest.all isNext && !st.names.contains text then
      return (text, { st with left := after, names := text :: st.names })
    else none
  | _, _ => none

/-- The flags with one set. -/
def Flags.set (f : Flags) (value : Bool) (c : Char) : Option Flags :=
  match c with
  | 'i' => some { f with ignoreCase := value }
  | 'm' => some { f with multiLine := value }
  | 's' => some { f with dotMatchesAll := value }
  | 'R' => some { f with crlf := value }
  | 'U' => some { f with swapGreed := value }
  | 'u' => some { f with unicode := value }
  | 'x' => some { f with ignoreSpace := value }
  | _ => none

/-- The flags as written set them: those after a dash are cleared.  None is written twice, nor the dash,
and something follows the dash. -/
def Flags.setAll (f : Flags) (written : List Char) : Option Flags := do
  if !written.Nodup || written.getLast? = some '-' then none
  let f ← (written.takeWhile (· != '-')).foldlM (fun f c => f.set true c) f
  ((written.dropWhile (· != '-')).drop 1).foldlM (fun f c => f.set false c) f

/-- How a group begins. -/
inductive Opening where
  | capture (index : Nat)
  | plain
  /-- Flags alone: no group follows. -/
  | flags

/-- Reads how a group begins, after its parenthesis.  There is no look around. -/
def opening : Reader Opening := fun st =>
  let st := st.skipSpace
  let numbered : State := { st with groups := st.groups + 1 }
  let named (rest : List Char) : Option (Opening × State) := do
    let (_, st) ← groupName { numbered with left := rest }
    return (.capture numbered.groups, st)
  match st.left with
  | '?' :: '=' :: _ | '?' :: '!' :: _ => none
  | '?' :: '<' :: '=' :: _ | '?' :: '<' :: '!' :: _ => none
  | '?' :: 'P' :: '<' :: rest => named rest
  | '?' :: '<' :: rest => named rest
  | '?' :: rest => do
    let written := rest.takeWhile fun c => c != ':' && c != ')'
    let flags ← st.flags.setAll written
    match rest.dropWhile fun c => c != ':' && c != ')' with
    | ':' :: after => return (.plain, { st with left := after, flags })
    | _ :: after => if written.isEmpty then none else return (.flags, { st with left := after, flags })
    | [] => none
  | _ => some (.capture numbered.groups, numbered)

/-! ## Expressions -/

/-- Parts one after the other, held last first.  Two or more are nested one deeper. -/
def sequence : List Part → Part
  | [] => ⟨.empty, 0, true⟩
  | [p] => ⟨p.regex, p.depth, true⟩
  | p :: before =>
    ⟨before.foldl (fun r q => .seq q.regex r) p.regex,
      before.foldl (fun d q => max d q.depth) p.depth + 1, true⟩

/-- Either of several parts, the first preferred.  Two or more are nested one deeper. -/
def choice : Part → List Part → Part
  | p, [] => p
  | p, q :: rest =>
    let later := choice q rest
    let depth := if rest.isEmpty then max p.depth q.depth + 1 else max (p.depth + 1) later.depth
    ⟨.alt p.regex later.regex, depth, true⟩

mutual

/-- Reads alternatives up to the end of the group or the text. -/
def alternatives : Nat → Reader Part
  | 0, _ => none
  | fuel + 1, st => do
    let (first, st) ← parts fuel [] st
    let (more, st) ← furtherAlternatives fuel st
    return (choice first more, st)

/-- Reads further alternatives, each after a bar. -/
def furtherAlternatives : Nat → Reader (List Part)
  | 0, _ => none
  | fuel + 1, st =>
    match st.left with
    | '|' :: rest => do
      let (next, st) ← parts fuel [] { st with left := rest }
      let (more, st) ← furtherAlternatives fuel st
      return (next :: more, st)
    | _ => some ([], st)

/-- Reads parts up to the end of the alternative, given those read so far, last first. -/
def parts : Nat → List Part → Reader Part
  | 0, _, _ => none
  | fuel + 1, before, st => do
    let st := st.skipSpace
    match st.left with
    | [] | ')' :: _ | '|' :: _ => return (sequence before, st)
    | '(' :: rest =>
      let (p, st) ← group fuel { st with left := rest }
      parts fuel (p :: before) st
    | '[' :: rest =>
      let (c, st) ← bracketed (2 * rest.length + 4) { st with left := rest }
      parts fuel ({ charPart st.flags c.set with depth := c.depth } :: before) st
    | '?' :: _ | '*' :: _ | '+' :: _ | '\x7b' :: _ =>
      let (before, st) ← repetition before st
      parts fuel before st
    | _ =>
      let (p, st) ← primitive st
      parts fuel (p :: before) st

/-- Reads a group after its parenthesis.  Flags set inside it end with it. -/
def group : Nat → Reader Part
  | 0, _ => none
  | fuel + 1, st => do
    let (how, inner) ← opening st
    match how with
    | .flags => return (⟨.empty, 0, false⟩, inner)
    | .plain =>
      let (p, inner) ← alternatives fuel inner
      close st.flags none p inner
    | .capture index =>
      let (p, inner) ← alternatives fuel inner
      close st.flags (some index) p inner
where
  /-- Takes the closing parenthesis. -/
  close (flags : Flags) (index : Option Nat) (p : Part) (inner : State) : Option (Part × State) :=
    match inner.left with
    | ')' :: rest => some (⟨.group index p.regex, p.depth + 1, true⟩, { inner with left := rest, flags })
    | _ => none

end

/-- Reads a whole pattern. -/
def whole (s : List Char) : Option Regex := do
  let (p, st) ← alternatives (4 * s.length + 4) ⟨s, .initial, 0, []⟩
  if st.left.isEmpty && p.depth ≤ nestLimit && p.regex.fits then return p.regex else none

end Regraft.Pattern.Parser

namespace Regraft.Pattern

/-- Reads a pattern. -/
def Regex.parse (text : String) : Option Regex := Parser.whole text.toList

end Regraft.Pattern
