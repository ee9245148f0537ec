import Regraft.Unicode.Property
/-!
# Quoted texts

A text is shown inside messages between double quotes.  The quote, the backslash and the usual control
characters have short escapes; whatever has no visible form of its own, or would attach to the character
before it, is shown by its code point.
-/

namespace Regraft.Text

/-- The digits of a number in base sixteen. -/
def hex (n : Nat) : List Char := Nat.toDigits 16 n

/-- Whether a character would be lost between quotes: it has no visible form, or it attaches to the one
before it.  Letters that extend a grapheme are spaced and remain visible. -/
def isLost (c : Char) : Bool :=
  !Unicode.isPrintable c || Unicode.isGraphemeExtend c && !(Unicode.category c).isLetter

/-- One character as it stands between quotes. -/
def quoteChar (c : Char) : List Char :=
  if c = '"' then ['\\', '"']
  else if c = '\\' then ['\\', '\\']
  else if c = '\n' then ['\\', 'n']
  else if c = '\r' then ['\\', 'r']
  else if c = '\t' then ['\\', 't']
  else if c.toNat = 0 then ['\\', '0']
  else if isLost c then ['\\', 'u', '\x7b'] ++ hex c.toNat ++ ['\x7d']
  else [c]

/-- A text between double quotes. -/
def quoted (s : String) : String := .ofList (['"'] ++ s.toList.flatMap quoteChar ++ ['"'])

/-- Texts in square brackets, each quoted, separated by a comma and a space. -/
def quotedList (texts : List String) : String := "[" ++ ", ".intercalate (texts.map quoted) ++ "]"

end Regraft.Text
