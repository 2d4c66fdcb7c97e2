import PathQuery.Regex.Trait
import PathQuery.Unicode.Scripts

/-!
# Breaks in text

The properties of Unicode that tell where text is cut into graphemes, words and
sentences.  Each gives a character at most one role.
-/

namespace PathQuery.CharSet

open Unicode

/-! ## Roles in several properties -/

/-- The carriage return. -/
def carriageReturn : CharSet :=
  single '\r'

/-- The line feed. -/
def lineFeed : CharSet :=
  single '\n'

/-- The joiner of graphemes, which is not shown. -/
def joiner : CharSet :=
  single '\u200d'

/-- Format characters that numbers and tags are made of, and the joiners. -/
def formatException : CharSet :=
  ofRanges [(0x600, 0x605), (0x6DD, 0x6DD), (0x890, 0x891), (0x8E2, 0x8E2), (0x200C, 0x200D),
    (0x110BD, 0x110BD), (0x110CD, 0x110CD), (0xE0020, 0xE007F)]

/-- The mark of abbreviations in Syriac. -/
def syriacAbbreviation : CharSet :=
  single '\u070f'

/-! ## Graphemes -/

/-- The syllables of Hangul that end in a vowel. -/
def hangulOpen : CharSet :=
  ofCodes ((List.range 399).map fun i => 0xAC00 + 28 * i)

/-- The syllables of Hangul that end in a consonant. -/
def hangulClosed : CharSet :=
  (range 0xAC00 0xD7A3).diff hangulOpen

/-- The characters that graphemes break before and behind. -/
def graphemeControl : CharSet :=
  (unions [ofTables [lineSeparator, paragraphSeparator, control, format],
    unassigned.inter defaultIgnorable]).diff
    (unions [carriageReturn, lineFeed, formatException, syriacAbbreviation])

/-- The set of a role in graphemes, by its short or long name. -/
def graphemeRole? : String → Option CharSet
  | "cn" | "control" => some graphemeControl
  | "cr" => some carriageReturn
  | "ex" | "extend" => some (graphemeExtend.union (ofTable emojiModifier))
  | "l" => some (ofTable hangulLeading)
  | "lf" => some lineFeed
  | "lv" => some hangulOpen
  | "lvt" => some hangulClosed
  | "pp" | "prepend" => some (ofTable graphemePrepend)
  | "ri" | "regionalindicator" => some (ofTable regionalIndicator)
  | "sm" | "spacingmark" => some (ofTable graphemeSpacingMark)
  | "t" => some (ofTable hangulTrailing)
  | "v" => some (ofTable hangulVowel)
  | "zwj" => some joiner
  | _ => Option.none

/-! ## Words -/

/-- The letters of Hiragana. -/
def hiragana : CharSet :=
  unions ((scripts.filter fun script => script.names.contains "hiragana").map (⟨·.ranges⟩))

/-- The characters that extend the part of a word before them. -/
def wordExtend : CharSet :=
  graphemeExtend.union (ofTables [spacingMark, emojiModifier])

/-- The letters of words in alphabets. -/
def wordLetter : CharSet :=
  (alphabetic.diff (unions [ofTables [ideographic, katakanaWord, hebrewLetter, complexLetter],
    hiragana, wordExtend])).union (ofTable wordLetterException)

/-- The digits of words. -/
def wordDigit : CharSet :=
  (ofTables [decimalDigit, digitException]).diff (single '\u066c')

/-- The set of a role in words, by its short or long name. -/
def wordRole? : String → Option CharSet
  | "cr" => some carriageReturn
  | "dq" | "doublequote" => some (single '"')
  | "ex" | "extendnumlet" => some (ofTable wordExtendNumberLetter)
  | "extend" => some wordExtend
  | "fo" | "format" =>
    some ((ofTable format).diff
      (unions [formatException, syriacAbbreviation, single '\u200b']))
  | "hl" | "hebrewletter" => some (ofTable hebrewLetter)
  | "ka" | "katakana" => some (ofTable katakanaWord)
  | "le" | "aletter" => some wordLetter
  | "lf" => some lineFeed
  | "mb" | "midnumlet" => some (ofTable midNumberOrLetter)
  | "ml" | "midletter" => some (ofTable midLetter)
  | "mn" | "midnum" => some (ofTable midNumber)
  | "nl" | "newline" => some (ofTable wordNewline)
  | "nu" | "numeric" => some wordDigit
  | "ri" | "regionalindicator" => some (ofTable regionalIndicator)
  | "sq" | "singlequote" => some (single '\'')
  | "wsegspace" => some (ofTable wordSpace)
  | "zwj" => some joiner
  | _ => Option.none

/-! ## Sentences -/

/-- The characters that extend the part of a sentence before them. -/
def sentenceExtend : CharSet :=
  unions [graphemeExtend, ofTable spacingMark, joiner]

/-- The lowercase letters of sentences. -/
def sentenceLower : CharSet :=
  lowercase.diff (graphemeExtend.union (ofRanges [(0x10D0, 0x10FA), (0x10FD, 0x10FF)]))

/-- The letters that may begin a sentence. -/
def sentenceUpper : CharSet :=
  (uppercase.union (ofTable titlecaseLetter)).diff
    (ofRanges [(0x1C90, 0x1CBA), (0x1CBD, 0x1CBF)])

/-- The letters of sentences without case. -/
def sentenceLetter : CharSet :=
  (alphabetic.union (single '\u05f3')).diff
    (unions [sentenceLower, sentenceUpper, sentenceExtend])

/-- The characters that close a quotation or a bracket, or open one. -/
def sentenceClose : CharSet :=
  (ofTables [openPunctuation, closePunctuation, initialPunctuation, finalPunctuation,
    quotationMark, closeException]).diff (ofRanges [(0xFF02, 0xFF02), (0xFF07, 0xFF07)])

/-- The spaces that do not end a line. -/
def sentenceSpace : CharSet :=
  (ofTable whiteSpace).diff
    (ofRanges [(0x0A, 0x0A), (0x0D, 0x0D), (0x85, 0x85), (0x2028, 0x2029)])

/-- The set of a role in sentences, by its short or long name. -/
def sentenceRole? : String → Option CharSet
  | "at" | "aterm" => some (ofTable sentencePeriod)
  | "cl" | "close" => some sentenceClose
  | "cr" => some carriageReturn
  | "ex" | "extend" => some sentenceExtend
  | "fo" | "format" => some ((ofTable format).diff formatException)
  | "le" | "oletter" => some sentenceLetter
  | "lf" => some lineFeed
  | "lo" | "lower" => some sentenceLower
  | "nu" | "numeric" => some (ofTables [decimalDigit, digitException])
  | "sc" | "scontinue" => some (ofTable sentenceContinue)
  | "se" | "sep" => some (ofTable sentenceSeparator)
  | "sp" => some sentenceSpace
  | "st" | "sterm" => some ((ofTable sentenceTerminal).diff (ofTable sentencePeriod))
  | "up" | "upper" => some sentenceUpper
  | _ => Option.none

end PathQuery.CharSet
