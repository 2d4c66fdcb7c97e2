/-!
# Patterns

A pattern is the structure of a regular expression as it is written.  What it
stands for depends on flags that change from one place of the text to another,
so flags and names are kept as they are.
-/

namespace PathQuery

/-! ## Flags -/

/-- A switch for the meaning of a pattern. -/
inductive Flag
  | ignoreCase
  | multiLine
  | dotAll
  | swapGreed
  | unicode
  | anyBreak
  | ignoreBlanks
deriving DecidableEq

/-- The flag of a letter. -/
def Flag.ofLetter? : Char → Option Flag
  | 'i' => some .ignoreCase
  | 'm' => some .multiLine
  | 's' => some .dotAll
  | 'U' => some .swapGreed
  | 'u' => some .unicode
  | 'R' => some .anyBreak
  | 'x' => some .ignoreBlanks
  | _ => none

/-- Flags that are set or cleared together. -/
abbrev FlagChange := List (Flag × Bool)

/-! ## Parts of a pattern -/

/-- A character as it is written.  Two digits in base sixteen name a byte where
Unicode is switched off. -/
structure WrittenChar where
  char : Char
  byByte : Bool := false

/-- The sets that a letter stands for after a backslash. -/
inductive LetterSet
  | digit
  | space
  | word

/-- A set that is written by a name; `outside` asks for all other characters. -/
inductive SetName
  | letter (kind : LetterSet) (outside : Bool)
  | property (text : List Char) (outside : Bool)

/-- An operation on sets that is written with two characters. -/
inductive SetOperation
  | intersection
  | difference
  | symmetricDifference

/-- What stands inside of brackets. -/
inductive ClassItem
  | empty
  | char (c : WrittenChar)
  | range (first last : WrittenChar)
  | ascii (name : String) (outside : Bool)
  | named (set : SetName)
  | bracket (outside : Bool) (inside : ClassItem)
  | union (items : List ClassItem)
  | operation (operation : SetOperation) (left right : ClassItem)

/-- A condition on the place between two characters, as it is written. -/
inductive PlaceMark
  | caret
  | dollar
  | textStart
  | textEnd
  | wordBoundary
  | noWordBoundary
  | wordStart
  | wordEnd
  | wordStartHalf
  | wordEndHalf

/-- A pattern. -/
inductive Pattern
  | empty
  | flags (change : FlagChange)
  | char (c : WrittenChar)
  | dot
  | place (mark : PlaceMark)
  | named (set : SetName)
  | bracket (outside : Bool) (inside : ClassItem)
  | repetition (body : Pattern) (least : Nat) (most : Option Nat) (greedy : Bool)
  | capture (index : Nat) (body : Pattern)
  | group (change : FlagChange) (body : Pattern)
  | concat (parts : List Pattern)
  | alternation (branches : List Pattern)

namespace ClassItem

/-- The item that some items make together. -/
def ofItems : List ClassItem → ClassItem
  | [] => empty
  | [item] => item
  | items => union items

mutual

/-- The number of items around the innermost one. -/
def depth : ClassItem → Nat
  | empty => 0
  | char _ => 0
  | range _ _ => 0
  | ascii _ _ => 0
  | named _ => 0
  | bracket _ inside => inside.depth + 1
  | union items => depths items + 1
  | operation _ left right => max left.depth right.depth + 1

/-- The greatest depth of some items. -/
def depths : List ClassItem → Nat
  | [] => 0
  | item :: rest => max item.depth (depths rest)

end

end ClassItem

namespace Pattern

/-- The pattern of some parts in a row. -/
def ofParts : List Pattern → Pattern
  | [] => empty
  | [part] => part
  | parts => concat parts

/-- The pattern of some branches of which one is taken. -/
def ofBranches : List Pattern → Pattern
  | [] => empty
  | [branch] => branch
  | branches => alternation branches

/-- If a repetition may follow a pattern. -/
def isRepeatable : Pattern → Bool
  | empty => false
  | flags _ => false
  | _ => true

mutual

/-- The number of patterns around the innermost one. -/
def depth : Pattern → Nat
  | empty => 0
  | flags _ => 0
  | char _ => 0
  | dot => 0
  | place _ => 0
  | named _ => 0
  | bracket _ inside => inside.depth + 1
  | repetition body _ _ _ => body.depth + 1
  | capture _ body => body.depth + 1
  | group _ body => body.depth + 1
  | concat parts => depths parts + 1
  | alternation branches => depths branches + 1

/-- The greatest depth of some patterns. -/
def depths : List Pattern → Nat
  | [] => 0
  | pattern :: rest => max pattern.depth (depths rest)

end

/-- How deep a pattern may be. -/
def depthLimit : Nat := 250

end Pattern

end PathQuery
