import Regraft.Descent
import Regraft.Xml.Layout
/-!
# Runs

A run builds a new document from a source by applying rules.  A rule that fails leaves what it has done so
far, and so do the rules before it.
-/

namespace Regraft

open Xml (Address Document Node Style Tag)

/-- The source of a run, what rules are read under, and the document built so far: the tag of its root, which
never changes, and the content. -/
structure Run where
  source : Document
  sourceRoot : Address
  sourceNamespaces : Namespaces
  vocabulary : Vocabulary
  root : Root
  tag : Tag
  content : List Node

namespace Run

/-- A run with nothing built but the root. -/
def start (source : Document) (sourceRoot : Address) (sourceNamespaces : Namespaces)
    (vocabulary : Vocabulary) (root : Root) : Except Error Run := do
  return ⟨source, sourceRoot, sourceNamespaces, vocabulary, root, ← root.tag, []⟩

/-- A rule at work on the source of a run. -/
def descent (r : Run) (rule : Rule) : Descent :=
  ⟨r.source, r.sourceNamespaces, r.root, r.vocabulary, rule⟩

/-- Applies one rule. -/
def apply (r : Run) (rule : Rule) : Run × Option Error :=
  let outcome := (r.descent rule).run r.sourceRoot r.content
  ({ r with content := outcome.content }, outcome.fault)

/-- Applies rules in order, up to the first that fails. -/
def applyAll (r : Run) : List Rule → Run × Option Error
  | [] => (r, none)
  | rule :: rest =>
    match r.apply rule with
    | (r, none) => r.applyAll rest
    | failed => failed

/-- The document built so far. -/
def document (r : Run) : Document := ⟨[.element r.tag r.content]⟩

/-- The address of the root that is built. -/
def documentRoot : Address := [0]

/-- The document built so far, serialized. -/
def write (r : Run) (style : Style) : Except Error String := r.document.write style

end Run

end Regraft
