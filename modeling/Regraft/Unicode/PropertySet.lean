import Regraft.Unicode.CaseSet
import Regraft.Unicode.EmojiTable
import Regraft.Unicode.IdentifierTable
import Regraft.Unicode.MarkTable
import Regraft.Unicode.PropertyTable
import Regraft.Unicode.PunctuationTable
/-!
# Sets of characters by property

The properties that are not listed whole are put together from general categories and short lists, as the
standard derives them.  All are those of its version 16.0.
-/

namespace Regraft.Unicode.CharSet

/-! ## Letters and case -/

/-- Lowercase characters. -/
def lowercase : CharSet := ofCategories [.ll] ∪ settled otherLowercase

/-- Uppercase characters. -/
def uppercase : CharSet := ofCategories [.lu] ∪ settled otherUppercase

/-- Characters that have a case. -/
def cased : CharSet := lowercase ∪ uppercase ∪ ofCategories [.lt]

/-- Letters, letter numbers, and the marks and symbols that count as part of a word's spelling. -/
def alphabetic : CharSet :=
  lowercase ∪ uppercase ∪ ofCategories [.lt, .lm, .lo, .nl] ∪ settled otherAlphabetic

/-- Decimal digits of every script. -/
def decimal : CharSet := ofCategories [.nd]

/-- White space. -/
def space : CharSet := ofRanges whiteSpace

/-- Characters of words: alphabetic ones, marks, decimal digits, connectors and the two joiners. -/
def word : CharSet := alphabetic ∪ ofCategories [.mn, .mc, .me, .nd, .pc] ∪ ofRanges joinControl

/-- Characters that the search for a cased neighbour skips. -/
def caseIgnorable : CharSet := ofCategories [.mn, .me, .cf, .lm, .sk] ∪ ofRanges otherCaseIgnorable

/-! ## Identifiers and notations -/

/-- Characters that belong to the syntax of notations. -/
def reservedSign : CharSet := ofRanges patternSyntax ∪ ofRanges patternWhiteSpace

/-- Characters that identifiers begin with. -/
def idStart : CharSet :=
  (ofCategories [.lu, .ll, .lt, .lm, .lo, .nl] ∪ ofRanges otherIdStart) \ reservedSign

/-- Characters that identifiers go on with. -/
def idContinue : CharSet :=
  (idStart ∪ ofCategories [.mn, .mc, .nd, .pc] ∪ ofRanges otherIdContinue) \ reservedSign

/-- Characters that identifiers begin with, whether normalized or not. -/
def xidStart : CharSet := idStart \ ofRanges notXidStart

/-- Characters that identifiers go on with, whether normalized or not. -/
def xidContinue : CharSet := idContinue \ ofRanges notXidContinue

/-- Hexadecimal digits, also those of full width. -/
def hexDigit : CharSet := ofRanges asciiHexDigit ∪ ofRanges wideHexDigit

/-- Ideographs. -/
def ideographic : CharSet := ofRanges unifiedIdeograph ∪ ofRanges otherIdeographic

/-! ## Marks, punctuation and symbols -/

/-- Characters that attach to the one before them. -/
def graphemeExtend : CharSet := ofCategories [.mn, .me] ∪ settled otherGraphemeExtend

/-- Visible characters that do not attach to the one before them. -/
def graphemeBase : CharSet :=
  complement (ofCategories [.cc, .cf, .co, .cn, .zl, .zp] ∪ graphemeExtend)

/-- Characters and reserved code points that are not shown where they are not understood. -/
def defaultIgnorable : CharSet :=
  (ofRanges otherDefaultIgnorable ∪ ofCategories [.cf] ∪ ofRanges variationSelector) \
    (space ∪ ofRanges visibleFormat ∪ ofRanges prependedConcatenationMark)

/-- Dashes. -/
def dash : CharSet := ofCategories [.pd] ∪ ofRanges otherDash

/-- Punctuation that ends sentences or parts of them. -/
def terminalPunctuation : CharSet := ofRanges sentenceTerminal ∪ ofRanges otherTerminalPunctuation

/-- Mathematical characters. -/
def math : CharSet := ofCategories [.sm] ∪ ofRanges otherMath

end Regraft.Unicode.CharSet
