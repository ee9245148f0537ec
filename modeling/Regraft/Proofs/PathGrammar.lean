import Regraft.Path.Basic
import Regraft.Unicode.Property
import Mathlib.Data.Nat.Digits.Defs
/-!
# The grammar of paths

    path      := step ('/' step)*
    step      := test predicate*
    test      := '.' | '..' | '*' | 'text()' | '@' name | name
    name      := ncname (':' ncname)?
    ncname    := (alphabetic | '_') (alphanumeric | '_' | '-' | '.')*
    predicate := '[' ws body ws ']'
    body      := digits | path | path ws ('=' | '!=') ws literal

Each symbol is a relation between a text and what the text denotes.  The relations say nothing about how a
text is read: which of several beginnings of a text a name takes, for instance, is left open, and that there
is only one way to read a whole path is for the reader to show.
-/

namespace Regraft.Path.Grammar

/-- White space, of any length. -/
def Blank (s : List Char) : Prop := ∀ c ∈ s, Unicode.isBlank c = true

/-- A name without a colon. -/
inductive NCName : List Char → Prop
  | mk {c : Char} {s : List Char} (first : Unicode.isAlphabetic c = true ∨ c = '_')
      (others : ∀ d ∈ s, Unicode.isAlphanumeric d = true ∨ d = '_' ∨ d = '-' ∨ d = '.') : NCName (c :: s)

/-- A name with or without a prefix. -/
inductive IsName : List Char → Name → Prop
  | bare {s : List Char} (h : NCName s) : IsName s ⟨none, .ofList s⟩
  | prefixed {s t : List Char} (hs : NCName s) (ht : NCName t) :
      IsName (s ++ ':' :: t) ⟨some (.ofList s), .ofList t⟩

/-- The test of a step. -/
inductive IsTest : List Char → Test → Prop
  | here : IsTest ['.'] .here
  | parent : IsTest ['.', '.'] .parent
  | anyElement : IsTest ['*'] .anyElement
  | text : IsTest ['t', 'e', 'x', 't', '(', ')'] .text
  | attribute {s : List Char} {n : Name} (h : IsName s n) : IsTest ('@' :: s) (.attribute n)
  | element {s : List Char} {n : Name} (h : IsName s n) : IsTest s (.element n)

/-- A text in quotes that does not contain its own quote. -/
inductive IsLiteral : List Char → String → Prop
  | mk {q : Char} {s : List Char} (quote : q = '"' ∨ q = '\'') (inside : q ∉ s) :
      IsLiteral (q :: (s ++ [q])) (.ofList s)

/-- The number that decimal digits stand for. -/
def decimal (s : List Char) : Nat := Nat.ofDigits 10 (s.reverse.map fun c => c.toNat - '0'.toNat)

/-- A comparison of what a path leads to with a literal. -/
inductive IsComparison (p : Path) : List Char → Predicate → Prop
  | equals {s : List Char} {value : String} (h : IsLiteral s value) {w : List Char} (hw : Blank w) :
      IsComparison p ('=' :: (w ++ s)) (.equals p value)
  | differs {s : List Char} {value : String} (h : IsLiteral s value) {w : List Char} (hw : Blank w) :
      IsComparison p ('!' :: '=' :: (w ++ s)) (.differs p value)

mutual

/-- One or more steps with slashes between them. -/
inductive AreSteps : List Char → List Step → Prop
  | one {s : List Char} {x : Step} (h : IsStep s x) : AreSteps s [x]
  | more {s t : List Char} {x : Step} {xs : List Step} (h : IsStep s x) (hs : AreSteps t xs) :
      AreSteps (s ++ '/' :: t) (x :: xs)

/-- A test and predicates.  The step remembers its text. -/
inductive IsStep : List Char → Step → Prop
  | mk {s t : List Char} {x : Test} {ps : List Predicate} (h : IsTest s x) (hs : ArePredicates t ps) :
      IsStep (s ++ t) ⟨.ofList (s ++ t), x, ps⟩

/-- Any number of predicates. -/
inductive ArePredicates : List Char → List Predicate → Prop
  | nil : ArePredicates [] []
  | cons {s t v w : List Char} {p : Predicate} {ps : List Predicate} (hv : Blank v) (h : IsBody s p)
      (hw : Blank w) (hs : ArePredicates t ps) :
      ArePredicates ('[' :: (v ++ s ++ w ++ ']' :: t)) (p :: ps)

/-- The inside of a predicate: a position, counted from one and of at most sixty-four bits, or a path, which
remembers its text, with or without a comparison. -/
inductive IsBody : List Char → Predicate → Prop
  | position {s : List Char} (digits : ∀ c ∈ s, '0' ≤ c ∧ c ≤ '9') (hmin : 1 ≤ decimal s)
      (hmax : decimal s ≤ 2 ^ 64 - 1) : IsBody s (.position (decimal s))
  | exists {s : List Char} {xs : List Step} (h : AreSteps s xs) : IsBody s (.exists ⟨.ofList s, xs⟩)
  | compare {s t w : List Char} {xs : List Step} {p : Predicate} (h : AreSteps s xs) (hw : Blank w)
      (ht : IsComparison ⟨.ofList s, xs⟩ t p) : IsBody (s ++ w ++ t) p

end

/-- The path that a text denotes.  The empty text is the path without steps. -/
inductive Denotes : String → Path → Prop
  | empty : Denotes "" ⟨"", []⟩
  | steps {text : String} {xs : List Step} (h : AreSteps text.toList xs) : Denotes text ⟨text, xs⟩

end Regraft.Path.Grammar
