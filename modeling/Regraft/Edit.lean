import Regraft.Error
import Regraft.Xml.Node
/-!
# Edits

An edit changes a content and may be stopped by an error.  What it did before the error stays done: its
outcome holds the content that it reached in either case.
-/

namespace Regraft

open Xml (Node QName)

/-- The content that an edit reached, and the error that stopped it, if one did. -/
structure Outcome where
  content : List Node
  fault : Option Error

/-- A change of a content that may be stopped. -/
abbrev Edit := List Node → Outcome

namespace Edit

/-- Changes nothing. -/
def done : Edit := fun c => ⟨c, none⟩

/-- Changes nothing and stops. -/
def fail (e : Error) : Edit := fun c => ⟨c, some e⟩

/-- One edit after another, unless the first is stopped. -/
def andThen (f g : Edit) : Edit := fun c =>
  match f c with
  | ⟨c', none⟩ => g c'
  | stopped => stopped

/-- Edits one after the other, up to the first that is stopped. -/
def sequence : List Edit → Edit
  | [] => done
  | f :: rest => f.andThen (sequence rest)

/-- The edit that depends on a result; its error stops before anything is done. -/
def given {α : Type} (r : Except Error α) (k : α → Edit) : Edit :=
  match r with
  | .ok a => k a
  | .error e => fail e

/-- A change that is made as a whole or, with an error, not at all. -/
def whole (f : List Node → Except Error (List Node)) : Edit := fun c =>
  match f c with
  | .ok c' => ⟨c', none⟩
  | .error e => ⟨c, some e⟩

/-- The number of elements of a name in a content. -/
def countNamed (q : QName) (c : List Node) : Nat := c.countP (Node.isNamed q)

/-- Adds empty elements of a name at the end until there are at least `n`. -/
def pad (q : QName) (n : Nat) : Edit := fun c =>
  ⟨Xml.appendNodes c (List.replicate (n - countNamed q c) (.element (.plain q) [])), none⟩

/-- Applies edits to the contents of the elements of a name, the first edit to the first of them and so on,
as far as there are both. -/
def eachNamed (q : QName) : List Edit → Edit
  | [], c => ⟨c, none⟩
  | _, [] => ⟨[], none⟩
  | f :: fs, .element tag content :: rest =>
    if tag.name = q then
      match f content with
      | ⟨content', none⟩ =>
        let later := eachNamed q fs rest
        { later with content := .element tag content' :: later.content }
      | ⟨content', some e⟩ => ⟨.element tag content' :: rest, some e⟩
    else
      let later := eachNamed q (f :: fs) rest
      { later with content := .element tag content :: later.content }
  | fs, n :: rest =>
    let later := eachNamed q fs rest
    { later with content := n :: later.content }

/-- Applies one edit to the contents of all elements of a name. -/
def allNamed (q : QName) (f : Edit) : Edit := fun c =>
  eachNamed q (List.replicate (countNamed q c) f) c

end Edit

/-- Work on a content, with the ways in which a descent puts it together. -/
class Work (ω : Type) where
  /-- Stops. -/
  fail : Error → ω
  /-- Goes on with a result, or stops with its error. -/
  given {α : Type} : Except Error α → (α → ω) → ω
  /-- One after the other, up to the first that stops. -/
  sequence : List ω → ω
  /-- One after another. -/
  andThen : ω → ω → ω
  /-- Makes elements of a name until there are so many. -/
  pad : QName → Nat → ω
  /-- Works in the elements of a name, paired with them by position. -/
  eachNamed : QName → List ω → ω
  /-- Works in all elements of a name alike. -/
  allNamed : QName → ω → ω

instance : Work Edit where
  fail := Edit.fail
  given := Edit.given
  sequence := Edit.sequence
  andThen := Edit.andThen
  pad := Edit.pad
  eachNamed := Edit.eachNamed
  allNamed := Edit.allNamed

end Regraft
