/-!
# Replacement and splitting

Operations on texts as lists of characters: replacing every occurrence of a word, and splitting at the
first occurrence of a character.
-/

namespace Regraft.Text

/-- Replaces the occurrences of `old` that begin after the first `skip` characters, left to right and
without overlap; the skipped characters are dropped. -/
def replaceAfter (old new : List Char) : Nat → List Char → List Char
  | _, [] => []
  | skip + 1, _ :: rest => replaceAfter old new skip rest
  | 0, c :: rest =>
    if old.isPrefixOf (c :: rest) then new ++ replaceAfter old new (old.length - 1) rest
    else c :: replaceAfter old new 0 rest

/-- Replaces every occurrence of the non-empty word `old`, left to right and without overlap. -/
def replaceAll (old new : List Char) (s : List Char) : List Char := replaceAfter old new 0 s

/-- The text before and after the first occurrence of `sep`. -/
def splitOnce? (sep : Char) : List Char → Option (List Char × List Char)
  | [] => none
  | c :: rest =>
    if c = sep then some ([], rest) else (splitOnce? sep rest).map fun (a, b) => (c :: a, b)

/-- The text without the leading characters that satisfy `p` and without the trailing ones. -/
def trimBy (p : Char → Bool) (s : List Char) : List Char :=
  ((s.dropWhile p).reverse.dropWhile p).reverse

/-- The text without the trailing characters that satisfy `p`. -/
def trimEndBy (p : Char → Bool) (s : List Char) : List Char := (s.reverse.dropWhile p).reverse

end Regraft.Text
