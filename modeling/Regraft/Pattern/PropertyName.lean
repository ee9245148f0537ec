import Regraft.Unicode.BreakSet
import Regraft.Unicode.PropertySet
import Regraft.Unicode.ScriptSet
/-!
# Names of properties

Patterns name properties of characters: alone, as in `Greek`, or with the kind of property, as in
`script=Greek`.  Case, spaces, dashes, underscores and a leading `is` make no difference in such a name.
-/

namespace Regraft.Pattern

open Unicode (Category CharSet)

/-- A name in the form that is compared.  One name keeps its `is`, as it would otherwise become that of
another property. -/
def normalizeName (name : List Char) : String :=
  let plain (s : List Char) : List Char :=
    (s.filter fun c => c.toNat < 0x80 && c != ' ' && c != '_' && c != '-').map Char.toLower
  let afterIs? : Option (List Char) :=
    match name with
    | i :: s :: rest => if i.toLower = 'i' ∧ s.toLower = 's' then some (plain rest) else none
    | _ => none
  match afterIs? with
  | some ['c'] => "isc"
  | some rest => .ofList rest
  | none => .ofList (plain name)

/-- What has a name among several. -/
def lookUp {α : Type} (name : String) (entries : List (List String × α)) : Option α :=
  (entries.find? fun entry => entry.1.contains name).map Prod.snd

/-! ## General categories -/

/-- General categories and groups of them, by their short and long names. -/
def categoryNames : List (List String × List Category) := [
  (["lu", "uppercaseletter"], [.lu]), (["ll", "lowercaseletter"], [.ll]), (["lt", "titlecaseletter"], [.lt]),
  (["lm", "modifierletter"], [.lm]), (["lo", "otherletter"], [.lo]),
  (["mn", "nonspacingmark"], [.mn]), (["mc", "spacingmark"], [.mc]), (["me", "enclosingmark"], [.me]),
  (["nd", "decimalnumber", "digit"], [.nd]), (["nl", "letternumber"], [.nl]), (["no", "othernumber"], [.no]),
  (["pc", "connectorpunctuation"], [.pc]), (["pd", "dashpunctuation"], [.pd]),
  (["ps", "openpunctuation"], [.ps]), (["pe", "closepunctuation"], [.pe]),
  (["pi", "initialpunctuation"], [.pi]), (["pf", "finalpunctuation"], [.pf]),
  (["po", "otherpunctuation"], [.po]),
  (["sm", "mathsymbol"], [.sm]), (["sc", "currencysymbol"], [.sc]), (["sk", "modifiersymbol"], [.sk]),
  (["so", "othersymbol"], [.so]),
  (["zs", "spaceseparator"], [.zs]), (["zl", "lineseparator"], [.zl]), (["zp", "paragraphseparator"], [.zp]),
  (["cc", "control", "cntrl"], [.cc]), (["cf", "format"], [.cf]), (["co", "privateuse"], [.co]),
  (["cn", "unassigned"], [.cn]),
  (["l", "letter"], [.lu, .ll, .lt, .lm, .lo]), (["lc", "casedletter"], [.lu, .ll, .lt]),
  (["m", "mark", "combiningmark"], [.mn, .mc, .me]), (["n", "number"], [.nd, .nl, .no]),
  (["p", "punctuation", "punct"], [.pc, .pd, .ps, .pe, .pi, .pf, .po]),
  (["s", "symbol"], [.sm, .sc, .sk, .so]), (["z", "separator"], [.zs, .zl, .zp]),
  (["c", "other"], [.cc, .cf, .co, .cn])]

/-- The characters of a category or of a group of them. -/
def categoryNamed? (name : String) : Option CharSet :=
  match name with
  | "any" => some .all
  | "ascii" => some (.range (Char.ofNat 0) '\x7f')
  | "assigned" => some (CharSet.ofCategories [.cn]).complement
  | _ => (lookUp name categoryNames).map .ofCategories

/-! ## Properties that a character has or has not -/

/-- Properties that a character has or has not, by their short and long names. -/
def propertyNames : List (List String × CharSet) := [
  (["ahex", "asciihexdigit"], .ofRanges Unicode.asciiHexDigit),
  (["alpha", "alphabetic"], .alphabetic),
  (["bidic", "bidicontrol"], .ofRanges Unicode.bidiControl),
  (["bidim", "bidimirrored"], .ofRanges Unicode.bidiMirrored),
  (["ci", "caseignorable"], .caseIgnorable),
  (["cased"], .cased),
  (["cwcf", "changeswhencasefolded"], .changesWhenCasefolded),
  (["cwcm", "changeswhencasemapped"], .changesWhenCasemapped),
  (["cwl", "changeswhenlowercased"], .changesWhenLowercased),
  (["cwt", "changeswhentitlecased"], .changesWhenTitlecased),
  (["cwu", "changeswhenuppercased"], .changesWhenUppercased),
  (["dash"], .dash),
  (["di", "defaultignorablecodepoint"], .defaultIgnorable),
  (["dep", "deprecated"], .ofRanges Unicode.deprecated),
  (["dia", "diacritic"], .ofRanges Unicode.diacritic),
  (["emoji"], .ofRanges Unicode.emoji),
  (["ecomp", "emojicomponent"], .ofRanges Unicode.emojiComponent),
  (["emod", "emojimodifier"], .ofRanges Unicode.emojiModifier),
  (["ebase", "emojimodifierbase"], .ofRanges Unicode.emojiModifierBase),
  (["epres", "emojipresentation"], .ofRanges Unicode.emojiPresentation),
  (["extpict", "extendedpictographic"], .ofRanges Unicode.extendedPictographic),
  (["ext", "extender"], .ofRanges Unicode.extender),
  (["grbase", "graphemebase"], .graphemeBase),
  (["grext", "graphemeextend"], .graphemeExtend),
  (["grlink", "graphemelink"], .ofRanges Unicode.graphemeLink),
  (["hex", "hexdigit"], .hexDigit),
  (["hyphen"], .ofRanges Unicode.hyphen),
  (["idsb", "idsbinaryoperator"], .ofRanges Unicode.idsBinaryOperator),
  (["idst", "idstrinaryoperator"], .ofRanges Unicode.idsTrinaryOperator),
  (["idsu", "idsunaryoperator"], .ofRanges Unicode.idsUnaryOperator),
  (["idcompatmathcontinue"], .ofRanges Unicode.idCompatMathContinue),
  (["idcompatmathstart"], .ofRanges Unicode.idCompatMathStart),
  (["idc", "idcontinue"], .idContinue),
  (["ids", "idstart"], .idStart),
  (["ideo", "ideographic"], .ideographic),
  (["joinc", "joincontrol"], .ofRanges Unicode.joinControl),
  (["loe", "logicalorderexception"], .ofRanges Unicode.logicalOrderException),
  (["lower", "lowercase"], .lowercase),
  (["math"], .math),
  (["mcm", "modifiercombiningmark"], .ofRanges Unicode.modifierCombiningMark),
  (["nchar", "noncharactercodepoint"], .ofRanges Unicode.noncharacter),
  (["oalpha", "otheralphabetic"], .settled Unicode.otherAlphabetic),
  (["odi", "otherdefaultignorablecodepoint"], .ofRanges Unicode.otherDefaultIgnorable),
  (["ogrext", "othergraphemeextend"], .settled Unicode.otherGraphemeExtend),
  (["oidc", "otheridcontinue"], .ofRanges Unicode.otherIdContinue),
  (["oids", "otheridstart"], .ofRanges Unicode.otherIdStart),
  (["olower", "otherlowercase"], .settled Unicode.otherLowercase),
  (["omath", "othermath"], .ofRanges Unicode.otherMath),
  (["oupper", "otheruppercase"], .settled Unicode.otherUppercase),
  (["patsyn", "patternsyntax"], .ofRanges Unicode.patternSyntax),
  (["patws", "patternwhitespace"], .ofRanges Unicode.patternWhiteSpace),
  (["pcm", "prependedconcatenationmark"], .ofRanges Unicode.prependedConcatenationMark),
  (["qmark", "quotationmark"], .ofRanges Unicode.quotationMark),
  (["radical"], .ofRanges Unicode.radical),
  (["ri", "regionalindicator"], .ofRanges Unicode.regionalIndicator),
  (["sterm", "sentenceterminal"], .ofRanges Unicode.sentenceTerminal),
  (["sd", "softdotted"], .ofRanges Unicode.softDotted),
  (["term", "terminalpunctuation"], .terminalPunctuation),
  (["uideo", "unifiedideograph"], .ofRanges Unicode.unifiedIdeograph),
  (["upper", "uppercase"], .uppercase),
  (["vs", "variationselector"], .ofRanges Unicode.variationSelector),
  (["wspace", "whitespace", "space"], .space),
  (["xidc", "xidcontinue"], .xidContinue),
  (["xids", "xidstart"], .xidStart)]

/-! ## Scripts, ages and breaks -/

/-- The characters that belong to a script. -/
def scriptNamed? (name : String) : Option CharSet := (Unicode.script? name).map fun s => .ofRanges s.ranges

/-- The characters that are used in a script. -/
def extensionNamed? (name : String) : Option CharSet := (Unicode.script? name).map .usedIn

/-- The characters up to a version of the standard, whose number is written with a point or as `V` with the
digits alone. -/
def ageNamed? (name : String) : Option CharSet := do
  let plain (version : String) : String := "v" ++ .ofList (version.toList.filter (· != '.'))
  let age ← Unicode.ages.find? fun age => age.1 == name || plain age.1 == name
  CharSet.upToAge? age.1

/-- Classes for breaks between graphemes. -/
def graphemeBreakNames : List (List String × CharSet) := [
  (["cn", "control"], .graphemeControl), (["cr"], .carriageReturn), (["ex", "extend"], .graphemeTail),
  (["l"], .ofRanges Unicode.leadingJamo), (["lf"], .lineFeed), (["lv"], .openSyllable),
  (["lvt"], .closedSyllable), (["pp", "prepend"], .graphemePrepend),
  (["ri", "regionalindicator"], .ofRanges Unicode.regionalIndicator), (["sm", "spacingmark"], .spacingMark),
  (["t"], .ofRanges Unicode.trailingJamo), (["v"], .ofRanges Unicode.vowelJamo), (["zwj"], .widthJoiner)]

/-- Classes for breaks between words. -/
def wordBreakNames : List (List String × CharSet) := [
  (["le", "aletter"], .wordLetter), (["cr"], .carriageReturn),
  (["dq", "doublequote"], .single (Char.ofNat 0x22)),
  (["extend"], .wordTail), (["ex", "extendnumlet"], .ofRanges Unicode.wordConnector),
  (["fo", "format"], .wordFormat), (["hl", "hebrewletter"], .ofRanges Unicode.hebrewLetter),
  (["ka", "katakana"], .ofRanges Unicode.katakanaLetter), (["lf"], .lineFeed),
  (["ml", "midletter"], .ofRanges Unicode.midLetter), (["mn", "midnum"], .ofRanges Unicode.midNumber),
  (["mb", "midnumlet"], .ofRanges Unicode.midNumberOrLetter),
  (["nl", "newline"], .ofRanges Unicode.wordNewline), (["nu", "numeric"], .wordNumber),
  (["ri", "regionalindicator"], .ofRanges Unicode.regionalIndicator),
  (["sq", "singlequote"], .single (Char.ofNat 0x27)),
  (["wsegspace"], .ofRanges Unicode.wordSpace), (["zwj"], .widthJoiner)]

/-- Classes for breaks between sentences. -/
def sentenceBreakNames : List (List String × CharSet) := [
  (["at", "aterm"], .ofRanges Unicode.ambiguousTerminal), (["cr"], .carriageReturn),
  (["cl", "close"], .closing), (["ex", "extend"], .sentenceTail), (["fo", "format"], .sentenceFormat),
  (["lf"], .lineFeed), (["lo", "lower"], .sentenceLower), (["nu", "numeric"], .sentenceNumber),
  (["le", "oletter"], .sentenceLetter), (["sc", "scontinue"], .ofRanges Unicode.sentenceContinue),
  (["st", "sterm"], .sentenceEnd), (["se", "sep"], .ofRanges Unicode.paragraphBreak),
  (["sp"], .sentenceSpace), (["up", "upper"], .sentenceUpper)]

/-! ## Names as patterns write them -/

/-- The characters of a property named alone. -/
def propertyNamed? (name : String) : Option CharSet :=
  (lookUp name propertyNames).or ((categoryNamed? name).or (scriptNamed? name))

/-- The characters of a property named with its kind. -/
def propertyOf? (kind name : String) : Option CharSet :=
  match kind with
  | "gc" | "generalcategory" => categoryNamed? name
  | "sc" | "script" => scriptNamed? name
  | "scx" | "scriptextensions" => extensionNamed? name
  | "age" => ageNamed? name
  | "gcb" | "graphemeclusterbreak" => lookUp name graphemeBreakNames
  | "wb" | "wordbreak" => lookUp name wordBreakNames
  | "sb" | "sentencebreak" => lookUp name sentenceBreakNames
  | _ => none

/-- What stands before and after the first occurrence of a sign. -/
def cut? (sign : List Char) : List Char → Option (List Char × List Char)
  | [] => none
  | c :: rest =>
    if sign.isPrefixOf (c :: rest) then some ([], (c :: rest).drop sign.length)
    else (cut? sign rest).map fun (before, after) => (c :: before, after)

/-- The characters of a property as it stands between braces, and whether those are meant or all others: a
name may be compared by inequality. -/
def propertyClass? (body : List Char) : Option (CharSet × Bool) :=
  let named (parts : List Char × List Char) : Option CharSet :=
    propertyOf? (normalizeName parts.1) (normalizeName parts.2)
  match cut? ['!', '='] body, cut? [':'] body, cut? ['='] body with
  | some parts, _, _ => (named parts).map (·, true)
  | none, some parts, _ => (named parts).map (·, false)
  | none, none, some parts => (named parts).map (·, false)
  | none, none, none => (propertyNamed? (normalizeName body)).map (·, false)

end Regraft.Pattern
