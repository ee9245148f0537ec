import Regraft.Text.Replace
/-!
# Escaped markup

Text that stands in markup writes the ampersand and the angle brackets as entities.  Escaping replaces the
ampersand first and unescaping replaces it last, so that neither touches what the other replacements made.
-/

namespace Regraft.Text

/-- Escapes the ampersand, then the angle brackets. -/
def escapeChars (s : List Char) : List Char :=
  replaceAll ['>'] "&gt;".toList (replaceAll ['<'] "&lt;".toList (replaceAll ['&'] "&amp;".toList s))

/-- Undoes the three replacements of `escapeChars`, the ampersand last. -/
def unescapeChars (s : List Char) : List Char :=
  replaceAll "&amp;".toList ['&'] (replaceAll "&gt;".toList ['>'] (replaceAll "&lt;".toList ['<'] s))

/-- The text with ampersands and angle brackets as entities. -/
def escape (s : String) : String := .ofList (escapeChars s.toList)

/-- The text with the entities of `escape` decoded. -/
def unescape (s : String) : String := .ofList (unescapeChars s.toList)

/-- The text as the value of an attribute in double quotes. -/
def escapeAttribute (s : String) : String :=
  .ofList (replaceAll ['"'] "&quot;".toList (escapeChars s.toList))

end Regraft.Text
