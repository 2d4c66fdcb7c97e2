import PathQuery.Regex.Category
import PathQuery.Unicode.Breaks
import PathQuery.Unicode.CaseChanges
import PathQuery.Unicode.Emoji
import PathQuery.Unicode.Traits

/-!
# Traits

A trait is a property of Unicode that a character has or has not.  Some traits
follow from the general category up to exceptions, the others have a table.
-/

namespace PathQuery.CharSet

open Unicode

/-! ## Letters and case -/

/-- The letters, the numbers written with letters, and what else is alphabetic. -/
def alphabetic : CharSet :=
  letter.union (ofTables [letterNumber, otherAlphabetic])

/-- The lowercase letters and what else is lowercase. -/
def lowercase : CharSet :=
  ofTables [lowercaseLetter, otherLowercase]

/-- The uppercase letters and what else is uppercase. -/
def uppercase : CharSet :=
  ofTables [uppercaseLetter, otherUppercase]

/-- The characters with case. -/
def cased : CharSet :=
  unions [lowercase, uppercase, ofTable titlecaseLetter]

/-- The characters that do not matter for the case of those around them. -/
def caseIgnorable : CharSet :=
  (ofTables [nonspacingMark, enclosingMark, format, modifierLetter, modifierSymbol, midLetter,
    midNumberOrLetter]).union (single '\'')

/-- The characters that title case changes. -/
def changesWhenTitlecased : CharSet :=
  ((ofTable changesWhenUppercased).diff (ofTable uppercasedNotTitlecased)).union
    (ofTable titlecasedNotUppercased)

/-- The characters that case folding changes. -/
def changesWhenCasefolded : CharSet :=
  ((ofTable changesWhenLowercased).diff (ofTable lowercasedNotCasefolded)).union
    (ofTable casefoldedNotLowercased)

/-- The characters that some change of case changes. -/
def changesWhenCasemapped : CharSet :=
  unions [ofTable changesWhenLowercased, ofTable changesWhenUppercased, changesWhenTitlecased]

/-! ## Identifiers -/

/-- The characters that patterns reserve. -/
def patternReserved : CharSet :=
  ofTables [patternSyntax, patternWhiteSpace]

/-- The characters that begin identifiers. -/
def idStart : CharSet :=
  (letter.union (ofTables [letterNumber, otherIdStart])).diff patternReserved

/-- The characters inside identifiers. -/
def idContinue : CharSet :=
  (idStart.union (ofTables [nonspacingMark, spacingMark, decimalDigit, connectorPunctuation,
    otherIdContinue])).diff patternReserved

/-- The characters inside identifiers that normalization takes out of them. -/
def unstableContinue : CharSet :=
  ofRanges ([(0x37A, 0x37A), (0x309B, 0x309C), (0xFC5E, 0xFC63), (0xFDFA, 0xFDFB)] ++
    [0xFE70, 0xFE72, 0xFE74, 0xFE76, 0xFE78, 0xFE7A, 0xFE7C, 0xFE7E].map fun c => (c, c))

/-- The characters at the beginning of identifiers that normalization moves away
from there. -/
def unstableStart : CharSet :=
  unstableContinue.union (ofRanges [(0xE33, 0xE33), (0xEB3, 0xEB3), (0xFF9E, 0xFF9F)])

/-! ## Marks and symbols -/

/-- The characters that extend the grapheme before them. -/
def graphemeExtend : CharSet :=
  ofTables [enclosingMark, nonspacingMark, otherGraphemeExtend]

/-- The characters that a grapheme is built on. -/
def graphemeBase : CharSet :=
  (assigned.diff (ofTables [control, format, privateUse, lineSeparator, paragraphSeparator])).diff
    graphemeExtend

/-- The mathematical characters. -/
def mathematical : CharSet :=
  ofTables [mathSymbol, otherMath]

/-- The characters that are not shown where they are not supported. -/
def defaultIgnorable : CharSet :=
  (ofTables [otherDefaultIgnorable, format, variationSelector]).diff
    ((ofTables [whiteSpace, prependedConcatenationMark]).union
      (ofRanges [(0xFFF9, 0xFFFB), (0x13430, 0x1343F)]))

/-! ## Names -/

/-- The set of a trait, by its short or long name. -/
def trait? : String → Option CharSet
  | "ahex" | "asciihexdigit" => some (ofTable asciiHexDigit)
  | "alpha" | "alphabetic" => some alphabetic
  | "bidic" | "bidicontrol" => some (ofTable bidiControl)
  | "bidim" | "bidimirrored" => some (ofTable bidiMirrored)
  | "cased" => some cased
  | "ci" | "caseignorable" => some caseIgnorable
  | "cwcf" | "changeswhencasefolded" => some changesWhenCasefolded
  | "cwcm" | "changeswhencasemapped" => some changesWhenCasemapped
  | "cwl" | "changeswhenlowercased" => some (ofTable changesWhenLowercased)
  | "cwt" | "changeswhentitlecased" => some changesWhenTitlecased
  | "cwu" | "changeswhenuppercased" => some (ofTable changesWhenUppercased)
  | "dash" => some (ofTable dash)
  | "dep" | "deprecated" => some (ofTable deprecated)
  | "di" | "defaultignorablecodepoint" => some defaultIgnorable
  | "dia" | "diacritic" => some (ofTable diacritic)
  | "ebase" | "emojimodifierbase" => some (ofTable emojiModifierBase)
  | "ecomp" | "emojicomponent" => some (ofTable emojiComponent)
  | "emod" | "emojimodifier" => some (ofTable emojiModifier)
  | "emoji" => some (ofTable emoji)
  | "epres" | "emojipresentation" => some (ofTable emojiPresentation)
  | "ext" | "extender" => some (ofTable extender)
  | "extpict" | "extendedpictographic" => some (ofTable extendedPictographic)
  | "grbase" | "graphemebase" => some graphemeBase
  | "grext" | "graphemeextend" => some graphemeExtend
  | "grlink" | "graphemelink" => some (ofTable graphemeLink)
  | "hex" | "hexdigit" => some (ofTable hexDigit)
  | "hyphen" => some (ofTable hyphen)
  | "idc" | "idcontinue" => some idContinue
  | "idcompatmathcontinue" => some (ofTable idCompatMathContinue)
  | "idcompatmathstart" => some (ofTable idCompatMathStart)
  | "ideo" | "ideographic" => some (ofTable ideographic)
  | "ids" | "idstart" => some idStart
  | "idsb" | "idsbinaryoperator" => some (ofTable idsBinaryOperator)
  | "idst" | "idstrinaryoperator" => some (ofTable idsTrinaryOperator)
  | "idsu" | "idsunaryoperator" => some (ofTable idsUnaryOperator)
  | "joinc" | "joincontrol" => some (ofTable joinControl)
  | "loe" | "logicalorderexception" => some (ofTable logicalOrderException)
  | "lower" | "lowercase" => some lowercase
  | "math" => some mathematical
  | "mcm" | "modifiercombiningmark" => some (ofTable modifierCombiningMark)
  | "nchar" | "noncharactercodepoint" => some (ofTable noncharacter)
  | "oalpha" | "otheralphabetic" => some (ofTable otherAlphabetic)
  | "odi" | "otherdefaultignorablecodepoint" => some (ofTable otherDefaultIgnorable)
  | "ogrext" | "othergraphemeextend" => some (ofTable otherGraphemeExtend)
  | "oidc" | "otheridcontinue" => some (ofTable otherIdContinue)
  | "oids" | "otheridstart" => some (ofTable otherIdStart)
  | "olower" | "otherlowercase" => some (ofTable otherLowercase)
  | "omath" | "othermath" => some (ofTable otherMath)
  | "oupper" | "otheruppercase" => some (ofTable otherUppercase)
  | "patsyn" | "patternsyntax" => some (ofTable patternSyntax)
  | "patws" | "patternwhitespace" => some (ofTable patternWhiteSpace)
  | "pcm" | "prependedconcatenationmark" => some (ofTable prependedConcatenationMark)
  | "qmark" | "quotationmark" => some (ofTable quotationMark)
  | "radical" => some (ofTable radical)
  | "ri" | "regionalindicator" => some (ofTable regionalIndicator)
  | "sd" | "softdotted" => some (ofTable softDotted)
  | "space" | "wspace" | "whitespace" => some (ofTable whiteSpace)
  | "sterm" | "sentenceterminal" => some (ofTable sentenceTerminal)
  | "term" | "terminalpunctuation" => some (ofTable terminalPunctuation)
  | "uideo" | "unifiedideograph" => some (ofTable unifiedIdeograph)
  | "upper" | "uppercase" => some uppercase
  | "vs" | "variationselector" => some (ofTable variationSelector)
  | "xidc" | "xidcontinue" => some (idContinue.diff unstableContinue)
  | "xids" | "xidstart" => some (idStart.diff unstableStart)
  | _ => Option.none

end PathQuery.CharSet
