import PathQuery.Regex.Break
import PathQuery.Unicode.Ages
import PathQuery.Unicode.ScriptExtensions

/-!
# Named sets

Sets of characters that have a name: the properties of Unicode with their values,
the classes of ASCII, and the sets that a letter stands for.
-/

namespace PathQuery.CharSet

open Unicode

/-! ## Properties -/

/-- The name of a property without its spaces, hyphens, low lines, case and a
leading `is`; the prefix of `isc`, which is a name of its own, is kept. -/
def looseName (name : List Char) : String :=
  let kept := name.filterMap fun c =>
    if c = ' ' ∨ c = '_' ∨ c = '-' ∨ 0x80 ≤ c.toNat then Option.none else some c.toLower
  match name.map Char.toLower with
  | 'i' :: 's' :: _ =>
    if kept.drop 2 = ['c'] then "isc" else String.ofList (kept.drop 2)
  | _ => String.ofList kept

/-- The set of a name in a list of named sets. -/
def named? (sets : List NamedRanges) (name : String) : Option CharSet :=
  (sets.find? fun set => set.names.contains name).map fun set => ⟨set.ranges⟩

/-- The characters that a version of Unicode knows: those that it and the
versions before it assigned. -/
def knownSince? (name : String) : Option CharSet :=
  if ages.any fun age => age.names.contains name then
    some (ofRanges (ofAges ages))
  else Option.none
where
  /-- The ranges of the versions up to the one of the name. -/
  ofAges : List NamedRanges → List (Nat × Nat)
    | [] => []
    | age :: rest => age.ranges ++ if age.names.contains name then [] else ofAges rest

/-- The set of a name that stands alone: a trait, a general category or a script. -/
def property? (name : String) : Option CharSet :=
  ((trait? name).orElse fun _ => category? name).orElse fun _ => named? scripts name

/-- The set of a value of a property. -/
def propertyValue? (property value : String) : Option CharSet :=
  match property with
  | "gc" | "generalcategory" => category? value
  | "sc" | "script" => named? scripts value
  | "scx" | "scriptextensions" => named? scriptExtensions value
  | "age" => knownSince? value
  | "gcb" | "graphemeclusterbreak" => graphemeRole? value
  | "sb" | "sentencebreak" => sentenceRole? value
  | "wb" | "wordbreak" => wordRole? value
  | _ => Option.none

/-- Cuts a text at the first place where a mark stands. -/
def cutAt (mark : List Char) : List Char → Option (List Char × List Char)
  | [] => Option.none
  | c :: rest =>
    if mark.isPrefixOf (c :: rest) then some ([], (c :: rest).drop mark.length)
    else (cutAt mark rest).map fun (before, after) => (c :: before, after)

/-- The set of the text between the braces of a property, and whether the text
asks for the characters outside of it. -/
def ofPropertyText? (text : List Char) : Option (Bool × CharSet) :=
  match cutAt ['!', '='] text with
  | some (property, value) =>
    (propertyValue? (looseName property) (looseName value)).map fun set => (true, set)
  | Option.none =>
    let set := match (cutAt [':'] text).orElse fun _ => cutAt ['='] text with
      | some (property, value) => propertyValue? (looseName property) (looseName value)
      | Option.none => property? (looseName text)
    set.map fun set => (false, set)

/-! ## Sets of letters -/

/-- The decimal digits of ASCII. -/
def asciiDigit : CharSet :=
  range 0x30 0x39

/-- The decimal digits of every script. -/
def digit : CharSet :=
  ofTable decimalDigit

/-- The white space of ASCII. -/
def asciiSpace : CharSet :=
  ofRanges [(0x09, 0x0D), (0x20, 0x20)]

/-- The white space. -/
def space : CharSet :=
  ofTable whiteSpace

/-- Letters, digits and the low line of ASCII. -/
def asciiWord : CharSet :=
  ofRanges [(0x30, 0x39), (0x41, 0x5A), (0x5F, 0x5F), (0x61, 0x7A)]

/-- The characters of words: alphabetic characters, marks, decimal digits,
connectors and the two joiners. -/
def word : CharSet :=
  unions [alphabetic, mark, ofTables [decimalDigit, connectorPunctuation, joinControl]]

/-! ## Classes of ASCII -/

/-- The set of a name between the colons of an ASCII class. -/
def asciiClass? : String → Option CharSet
  | "alnum" => some (ofRanges [(0x30, 0x39), (0x41, 0x5A), (0x61, 0x7A)])
  | "alpha" => some (ofRanges [(0x41, 0x5A), (0x61, 0x7A)])
  | "ascii" => some (range 0 0x7F)
  | "blank" => some (ofRanges [(0x09, 0x09), (0x20, 0x20)])
  | "cntrl" => some (ofRanges [(0, 0x1F), (0x7F, 0x7F)])
  | "digit" => some asciiDigit
  | "graph" => some (range 0x21 0x7E)
  | "lower" => some (range 0x61 0x7A)
  | "print" => some (range 0x20 0x7E)
  | "punct" => some (ofRanges [(0x21, 0x2F), (0x3A, 0x40), (0x5B, 0x60), (0x7B, 0x7E)])
  | "space" => some asciiSpace
  | "upper" => some (range 0x41 0x5A)
  | "word" => some asciiWord
  | "xdigit" => some (ofRanges [(0x30, 0x39), (0x41, 0x46), (0x61, 0x66)])
  | _ => Option.none

end PathQuery.CharSet
