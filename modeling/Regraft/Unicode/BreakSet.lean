import Regraft.Unicode.BreakTable
import Regraft.Unicode.PropertySet
import Regraft.Unicode.ScriptSet
/-!
# Classes for breaks between graphemes, words and sentences

The rules that find graphemes, words and sentences look at the class of each character.  Each kind of break
has classes of its own; a character that is in none of the sets of a kind is of the class that is named
other.
-/

namespace Regraft.Unicode.CharSet

/-- The line feed. -/
def lineFeed : CharSet := single '\n'

/-- The carriage return. -/
def carriageReturn : CharSet := single '\r'

/-- The joiner that makes one picture of two. -/
def widthJoiner : CharSet := single (Char.ofNat 0x200D)

/-- The two joiners. -/
def joiners : CharSet := ofRanges joinControl

/-! ## Graphemes -/

/-- What extends a grapheme. -/
def graphemeTail : CharSet := graphemeExtend ∪ ofRanges emojiModifier

/-- What stands alone: controls, most formats, and reserved code points that would be formats. -/
def graphemeControl : CharSet :=
  (ofCategories [.zl, .zp, .cc, .cf] ∪ (ofCategories [.cn] ∩ defaultIgnorable)) \
    (lineFeed ∪ carriageReturn ∪ joiners ∪ ofRanges prependedConcatenationMark ∪ graphemeExtend)

/-- Marks that join the grapheme before them without extending it. -/
def spacingMark : CharSet :=
  ((ofCategories [.mc] \ graphemeTail) \ ofRanges detachedMark) ∪ ofRanges attachedVowel

/-- What joins the grapheme after it. -/
def graphemePrepend : CharSet := ofRanges prependedConcatenationMark ∪ ofRanges prependedLetter

/-- Hangul syllables without a last consonant. -/
def openSyllable : CharSet :=
  ofRanges (hangulSyllable.flatMap fun r =>
    (List.range ((r.2 - r.1) / 28 + 1)).map fun i => (r.1 + 28 * i, r.1 + 28 * i))

/-- Hangul syllables with a last consonant. -/
def closedSyllable : CharSet := ofRanges hangulSyllable \ openSyllable

/-! ## Words -/

/-- What extends a character of a word. -/
def wordTail : CharSet := (graphemeTail ∪ ofCategories [.mc]) \ widthJoiner

/-- Formats within words. -/
def wordFormat : CharSet :=
  ofCategories [.cf] \
    (joiners ∪ single (Char.ofNat 0x200B) ∪ ofRanges prependedConcatenationMark ∪ graphemeExtend)

/-- Characters of numbers. -/
def wordNumber : CharSet := decimal ∪ ofRanges numberSign

/-- Letters of words in scripts that write spaces. -/
def wordLetter : CharSet :=
  (alphabetic \ (wordTail ∪ ofRanges hebrewLetter ∪ ofRanges katakanaLetter ∪ ideographic ∪
    ofScript "hira" ∪ ofRanges spacelessLetter)) ∪ ofRanges wordLetterSymbol

/-! ## Sentences -/

/-- What extends a character of a sentence. -/
def sentenceTail : CharSet := graphemeExtend ∪ ofCategories [.mc] ∪ widthJoiner

/-- Characters of numbers in sentences. -/
def sentenceNumber : CharSet := decimal ∪ ofRanges sentenceNumberSign

/-- Formats within sentences. -/
def sentenceFormat : CharSet := ofCategories [.cf] \ (joiners ∪ sentenceNumber ∪ graphemeExtend)

/-- White space within paragraphs. -/
def sentenceSpace : CharSet := space \ (lineFeed ∪ carriageReturn ∪ ofRanges paragraphBreak)

/-- Letters that do not begin a sentence. -/
def sentenceLower : CharSet := lowercase \ (graphemeExtend ∪ ofRanges caselessGeorgian)

/-- Letters that begin a sentence. -/
def sentenceUpper : CharSet := (uppercase ∪ ofCategories [.lt]) \ ofRanges georgianCapital

/-- Other letters of sentences. -/
def sentenceLetter : CharSet :=
  (alphabetic ∪ single (Char.ofNat 0x05F3)) \ (sentenceLower ∪ sentenceUpper ∪ sentenceTail)

/-- Punctuation that ends a sentence in any case. -/
def sentenceEnd : CharSet := ofRanges sentenceTerminal \ ofRanges ambiguousTerminal

/-- What closes or opens a quotation or a bracket. -/
def closing : CharSet := ofCategories [.ps, .pe, .pi, .pf] ∪ ofRanges otherClosing

end Regraft.Unicode.CharSet
