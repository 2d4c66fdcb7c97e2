import PathQuery.Regex.CharSet
import PathQuery.Unicode.Letters
import PathQuery.Unicode.Marks
import PathQuery.Unicode.Numerals
import PathQuery.Unicode.Punctuation
import PathQuery.Unicode.Separators

/-!
# General categories

Every code point has one general category of Unicode.  The categories come in
groups, and a code point that no table lists is unassigned.
-/

namespace PathQuery.CharSet

open Unicode

/-- The letters. -/
def letter : CharSet :=
  ofTables [lowercaseLetter, uppercaseLetter, otherLetter, modifierLetter, titlecaseLetter]

/-- The letters with case. -/
def casedLetter : CharSet :=
  ofTables [lowercaseLetter, uppercaseLetter, titlecaseLetter]

/-- The marks that combine with other characters. -/
def mark : CharSet :=
  ofTables [nonspacingMark, spacingMark, enclosingMark]

/-- The numbers. -/
def number : CharSet :=
  ofTables [decimalDigit, letterNumber, otherNumber]

/-- The punctuation. -/
def punctuation : CharSet :=
  ofTables [connectorPunctuation, dashPunctuation, openPunctuation, closePunctuation,
    initialPunctuation, finalPunctuation, otherPunctuation]

/-- The symbols. -/
def symbol : CharSet :=
  ofTables [mathSymbol, currencySymbol, modifierSymbol, otherSymbol]

/-- The separators. -/
def separator : CharSet :=
  ofTables [spaceSeparator, lineSeparator, paragraphSeparator]

/-- The characters without a category of their own. -/
def unassigned : CharSet :=
  (unions [letter, mark, number, punctuation, symbol, separator,
    ofTables [control, format, surrogate, privateUse]]).compl

/-- The characters with a category of their own. -/
def assigned : CharSet :=
  unassigned.compl

/-- The controls and all that is no character of a text. -/
def otherCategory : CharSet :=
  unassigned.union (ofTables [control, format, surrogate, privateUse])

/-- The set of a general category, by its short or long name. -/
def category? : String → Option CharSet
  | "c" | "other" => some otherCategory
  | "cc" | "control" | "cntrl" => some (ofTable control)
  | "cf" | "format" => some (ofTable format)
  | "cn" | "unassigned" => some unassigned
  | "co" | "privateuse" => some (ofTable privateUse)
  | "l" | "letter" => some letter
  | "lc" | "casedletter" => some casedLetter
  | "ll" | "lowercaseletter" => some (ofTable lowercaseLetter)
  | "lm" | "modifierletter" => some (ofTable modifierLetter)
  | "lo" | "otherletter" => some (ofTable otherLetter)
  | "lt" | "titlecaseletter" => some (ofTable titlecaseLetter)
  | "lu" | "uppercaseletter" => some (ofTable uppercaseLetter)
  | "m" | "mark" | "combiningmark" => some mark
  | "mc" | "spacingmark" => some (ofTable spacingMark)
  | "me" | "enclosingmark" => some (ofTable enclosingMark)
  | "mn" | "nonspacingmark" => some (ofTable nonspacingMark)
  | "n" | "number" => some number
  | "nd" | "decimalnumber" | "digit" => some (ofTable decimalDigit)
  | "nl" | "letternumber" => some (ofTable letterNumber)
  | "no" | "othernumber" => some (ofTable otherNumber)
  | "p" | "punctuation" | "punct" => some punctuation
  | "pc" | "connectorpunctuation" => some (ofTable connectorPunctuation)
  | "pd" | "dashpunctuation" => some (ofTable dashPunctuation)
  | "pe" | "closepunctuation" => some (ofTable closePunctuation)
  | "pf" | "finalpunctuation" => some (ofTable finalPunctuation)
  | "pi" | "initialpunctuation" => some (ofTable initialPunctuation)
  | "po" | "otherpunctuation" => some (ofTable otherPunctuation)
  | "ps" | "openpunctuation" => some (ofTable openPunctuation)
  | "s" | "symbol" => some symbol
  | "sc" | "currencysymbol" => some (ofTable currencySymbol)
  | "sk" | "modifiersymbol" => some (ofTable modifierSymbol)
  | "sm" | "mathsymbol" => some (ofTable mathSymbol)
  | "so" | "othersymbol" => some (ofTable otherSymbol)
  | "z" | "separator" => some separator
  | "zl" | "lineseparator" => some (ofTable lineSeparator)
  | "zp" | "paragraphseparator" => some (ofTable paragraphSeparator)
  | "zs" | "spaceseparator" => some (ofTable spaceSeparator)
  | "any" => some all
  | "assigned" => some assigned
  | "ascii" => some (range 0 0x7F)
  | _ => Option.none

end PathQuery.CharSet
