import PathQuery.Regex.Basic
import PathQuery.Regex.Pattern

/-!
# The meaning of a pattern

Under flags a pattern stands for a regular expression, or for none: without
Unicode, what could match a part of a character is refused.  A change of flags
inside a pattern lasts to the end of the group around it, through all its later
branches.
-/

namespace PathQuery

namespace Regex

/-- The flags that are in force. -/
structure Flags where
  ignoreCase : Bool := false
  multiLine : Bool := false
  dotAll : Bool := false
  ignoreBlanks : Bool := false
  swapGreed : Bool := false
  unicode : Bool := true
  anyBreak : Bool := false

namespace Flags

/-- The flags after one of them was set or cleared. -/
def set (flags : Flags) (flag : Flag) (value : Bool) : Flags :=
  match flag with
  | .ignoreCase => { flags with ignoreCase := value }
  | .multiLine => { flags with multiLine := value }
  | .dotAll => { flags with dotAll := value }
  | .ignoreBlanks => { flags with ignoreBlanks := value }
  | .swapGreed => { flags with swapGreed := value }
  | .unicode => { flags with unicode := value }
  | .anyBreak => { flags with anyBreak := value }

/-- The flags after a change. -/
def apply (flags : Flags) (change : FlagChange) : Flags :=
  change.foldl (fun flags item => flags.set item.1 item.2) flags

/-! ## Characters and sets -/

/-- The set without regard to case, where case is ignored. -/
def fold (flags : Flags) (chars : CharSet) : CharSet :=
  if flags.ignoreCase then
    if flags.unicode then chars.fold else chars.foldAscii
  else chars

/-- The set or all other characters, which only Unicode knows. -/
def turn? (flags : Flags) (outside : Bool) (chars : CharSet) : Option CharSet :=
  if outside && !flags.unicode then none else some (chars.complIf outside)

/-- The character that is written; without Unicode a byte has to be one of ASCII. -/
def char? (flags : Flags) (c : WrittenChar) : Option Char :=
  if !flags.unicode && c.byByte && 0x80 ≤ c.char.toNat then none else some c.char

/-- The code point of a character inside of brackets; without Unicode it has to be
one of ASCII. -/
def classCode? (flags : Flags) (c : WrittenChar) : Option Nat :=
  if !flags.unicode && 0x80 ≤ c.char.toNat then none else some c.char.toNat

/-- The characters that a letter stands for. -/
def letters (flags : Flags) : LetterSet → CharSet
  | .digit => if flags.unicode then .digit else .asciiDigit
  | .space => if flags.unicode then .space else .asciiSpace
  | .word => if flags.unicode then .word else .asciiWord

/-- The set of a name.  The sets of letters have both cases of all they hold. -/
def named? (flags : Flags) : SetName → Option CharSet
  | .letter kind outside => flags.turn? outside (flags.letters kind)
  | .property text outside =>
    if flags.unicode then
      (CharSet.ofPropertyText? text).map fun (inverted, chars) =>
        (flags.fold chars).complIf (outside != inverted)
    else none

end Flags

/-- The set of an operation. -/
def combine : SetOperation → CharSet → CharSet → CharSet
  | .intersection, left, right => left.inter right
  | .difference, left, right => left.diff right
  | .symmetricDifference, left, right => left.symmDiff right

mutual

/-- The set of what stands inside of brackets. -/
def classSet? (flags : Flags) : ClassItem → Option CharSet
  | .empty => some .none
  | .char c => (flags.classCode? c).map fun code => .range code code
  | .range first last => do return .range (← flags.classCode? first) (← flags.classCode? last)
  | .ascii name outside => do flags.turn? outside (flags.fold (← CharSet.asciiClass? name))
  | .named name => flags.named? name
  | .bracket outside inside => do flags.turn? outside (flags.fold (← classSet? flags inside))
  | .union items => (classSets? flags items).map .unions
  | .operation operation left right => do
    return combine operation (flags.fold (← classSet? flags left))
      (flags.fold (← classSet? flags right))

/-- The sets of some items. -/
def classSets? (flags : Flags) : List ClassItem → Option (List CharSet)
  | [] => some []
  | item :: rest => do return (← classSet? flags item) :: (← classSets? flags rest)

end

namespace Flags

/-! ## Single patterns -/

/-- The characters that the dot stands for, which may be any but line breaks. -/
def dot? (flags : Flags) : Option CharSet :=
  if !flags.unicode then none
  else if flags.dotAll then some .all
  else if flags.anyBreak then some (CharSet.ofCodes [0x0A, 0x0D]).compl
  else some (CharSet.single '\n').compl

/-- The expression of a character. -/
def literal (flags : Flags) (c : Char) : Regex :=
  if flags.ignoreCase then ofSet (flags.fold (.single c)) else .literal [c]

/-- The assertion of a place. -/
def assertion (flags : Flags) : PlaceMark → Assertion
  | .caret =>
    if flags.multiLine then
      if flags.anyBreak then .lineStartAnyBreak else .lineStart
    else .textStart
  | .dollar =>
    if flags.multiLine then
      if flags.anyBreak then .lineEndAnyBreak else .lineEnd
    else .textEnd
  | .textStart => .textStart
  | .textEnd => .textEnd
  | .wordBoundary => .wordBoundary flags.unicode
  | .noWordBoundary => .noWordBoundary flags.unicode
  | .wordStart => .wordStart flags.unicode
  | .wordEnd => .wordEnd flags.unicode
  | .wordStartHalf => .wordStartHalf flags.unicode
  | .wordEndHalf => .wordEndHalf flags.unicode

end Flags

/-! ## Whole patterns -/

mutual

/-- The regular expression of a pattern, with the flags that are in force behind
it. -/
def meaning? (flags : Flags) : Pattern → Option (Regex × Flags)
  | .empty => some (.empty, flags)
  | .flags change => some (.empty, flags.apply change)
  | .char c => (flags.char? c).map fun c => (flags.literal c, flags)
  | .dot => flags.dot?.map fun chars => (ofSet chars, flags)
  | .place mark => some (.assertion (flags.assertion mark), flags)
  | .named name => (flags.named? name).map fun chars => (ofSet chars, flags)
  | .bracket outside inside => do
    let chars ← flags.turn? outside (flags.fold (← classSet? flags inside))
    return (ofSet chars, flags)
  | .repetition body least most greedy => do
    let (body, behind) ← meaning? flags body
    return (repeated body least most (greedy != flags.swapGreed), behind)
  | .capture index body => do
    let (body, _) ← meaning? flags body
    return (.capture index body, flags)
  | .group change body => do
    let (body, _) ← meaning? (flags.apply change) body
    return (body, flags)
  | .concat parts => do
    let (parts, behind) ← meanings? flags parts
    return (ofParts parts, behind)
  | .alternation branches => do
    let (branches, behind) ← meanings? flags branches
    return (ofBranches branches, behind)

/-- The regular expressions of some patterns, each under the flags that the one
before leaves behind. -/
def meanings? (flags : Flags) : List Pattern → Option (List Regex × Flags)
  | [] => some ([], flags)
  | pattern :: rest => do
    let (regex, behind) ← meaning? flags pattern
    let (regexes, behind) ← meanings? behind rest
    return (regex :: regexes, behind)

end

end Regex

end PathQuery
