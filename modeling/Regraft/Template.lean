import Regraft.Error
/-!
# Templates

A template is a text with slots.  `%s` is a slot and `%%` stands for one percent sign; a percent sign before
anything else stands for itself.
-/

namespace Regraft

/-- A part of a template. -/
inductive Segment where
  | literal (text : String)
  | slot
  deriving DecidableEq, Repr

/-- A template with the text that it was read from. -/
structure Template where
  raw : String
  segments : List Segment
  deriving DecidableEq, Repr

namespace Template

/-- A literal of the characters gathered in reverse, if there are any. -/
def literalOf (reversed : List Char) : List Segment :=
  if reversed.isEmpty then [] else [.literal (.ofList reversed.reverse)]

/-- Divides a text into segments; `reversed` holds the literal characters since the last slot. -/
def segmentsFrom (reversed : List Char) : List Char → List Segment
  | [] => literalOf reversed
  | '%' :: 's' :: rest => literalOf reversed ++ .slot :: segmentsFrom [] rest
  | '%' :: '%' :: rest => segmentsFrom ('%' :: reversed) rest
  | c :: rest => segmentsFrom (c :: reversed) rest

/-- Reads a template. -/
def parse (raw : String) : Template := ⟨raw, segmentsFrom [] raw.toList⟩

/-- The number of slots. -/
def slots (t : Template) : Nat := t.segments.count .slot

/-- The segments with their slots filled in order. -/
def fill : List Segment → List String → String
  | [], _ => ""
  | .literal text :: rest, values => text ++ fill rest values
  | .slot :: rest, [] => fill rest []
  | .slot :: rest, value :: values => value ++ fill rest values

/-- Fills the slots in order.  There must be as many values as slots. -/
def render (t : Template) (values : List String) : Except Error String :=
  if values.length = t.slots then .ok (fill t.segments values)
  else .error (.templateArity t.raw t.slots values.length values)

end Template

end Regraft
