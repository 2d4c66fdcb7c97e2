import PathQuery.Unicode.CaseFolding
import PathQuery.Unicode.CodeRanges

/-!
# Sets of characters

A set of characters is a list of ranges of code points.  The ranges stand in
ascending order and touch neither each other nor, at their ends, the
surrogates, which are code points but no characters.
-/

namespace PathQuery

/-- A set of characters as ranges of code points, both ends included. -/
structure CharSet where
  ranges : List (Nat × Nat)
deriving DecidableEq

namespace CharSet

/-! ## Making sets -/

/-- Joins ranges in ascending order where they overlap or touch; `current` is the
range that the next may still be joined to. -/
def join (current : Nat × Nat) : List (Nat × Nat) → List (Nat × Nat)
  | [] => [current]
  | range :: rest =>
    if range.1 ≤ current.2 + 1 then join (current.1, max current.2 range.2) rest
    else current :: join range rest

/-- The set of some ranges in any order. -/
def ofRanges (ranges : List (Nat × Nat)) : CharSet :=
  match ranges.mergeSort fun a b => a.1 ≤ b.1 with
  | [] => ⟨[]⟩
  | range :: rest => ⟨join range rest⟩

/-- The set of a table. -/
def ofTable (table : Unicode.CodeRanges) : CharSet :=
  ofRanges table.all

/-- The set of all characters of some tables. -/
def ofTables (tables : List Unicode.CodeRanges) : CharSet :=
  ofRanges (tables.flatMap Unicode.CodeRanges.all)

/-- The set of some code points. -/
def ofCodes (codes : List Nat) : CharSet :=
  ofRanges (codes.map fun code => (code, code))

/-- The set without characters. -/
def none : CharSet :=
  ⟨[]⟩

/-- The set of all characters. -/
def all : CharSet :=
  ⟨[(0, 0x10FFFF)]⟩

/-- The set of the characters from one to another. -/
def range (first last : Nat) : CharSet :=
  ⟨[(first, last)]⟩

/-- The set of one character. -/
def single (c : Char) : CharSet :=
  range c.toNat c.toNat

/-! ## Asking about sets -/

/-- If a set holds a code point. -/
def contains (set : CharSet) (code : Nat) : Bool :=
  set.ranges.any fun range => range.1 ≤ code && code ≤ range.2

/-- If a set has no characters. -/
def isEmpty (set : CharSet) : Bool :=
  set.ranges.isEmpty

/-- If every character of a set is one of ASCII. -/
def isAscii (set : CharSet) : Bool :=
  set.ranges.all fun range => range.2 < 0x80

/-- The only character of a set. -/
def only? (set : CharSet) : Option Char :=
  match set.ranges with
  | [(first, last)] => if first = last then some (Char.ofNat first) else Option.none
  | _ => Option.none

/-! ## Combining sets -/

/-- The character after another, across the surrogates. -/
def after (code : Nat) : Nat :=
  if code = 0xD7FF then 0xE000 else code + 1

/-- The character before another, across the surrogates. -/
def before (code : Nat) : Nat :=
  if code = 0xE000 then 0xD7FF else code - 1

/-- The characters of either set. -/
def union (left right : CharSet) : CharSet :=
  ofRanges (left.ranges ++ right.ranges)

/-- The characters of some sets. -/
def unions (sets : List CharSet) : CharSet :=
  ofRanges (sets.flatMap ranges)

/-- The common parts of two lists of ranges in ascending order. -/
def overlaps : List (Nat × Nat) → List (Nat × Nat) → List (Nat × Nat)
  | [], _ => []
  | _ :: _, [] => []
  | a :: s, b :: t =>
    let rest := if a.2 < b.2 then overlaps s (b :: t) else overlaps (a :: s) t
    if max a.1 b.1 ≤ min a.2 b.2 then (max a.1 b.1, min a.2 b.2) :: rest else rest
termination_by s t => s.length + t.length

/-- The characters of both sets. -/
def inter (left right : CharSet) : CharSet :=
  ⟨overlaps left.ranges right.ranges⟩

/-- What is left of the range from `first` to `last` without ranges in ascending
order. -/
def remainders (first last : Nat) : List (Nat × Nat) → List (Nat × Nat)
  | [] => [(first, last)]
  | range :: rest =>
    if range.2 < first then remainders first last rest
    else if last < range.1 then [(first, last)]
    else
      (if first < range.1 then [(first, before range.1)] else []) ++
        (if range.2 < last then remainders (after range.2) last rest else [])

/-- The characters of the left set that the right one has not. -/
def diff (left right : CharSet) : CharSet :=
  ⟨left.ranges.flatMap fun range => remainders range.1 range.2 right.ranges⟩

/-- The characters of either set that are not in both. -/
def symmDiff (left right : CharSet) : CharSet :=
  (left.union right).diff (left.inter right)

/-- The gaps behind a code point and between ranges in ascending order.  Where
nothing but the surrogates lies in between, the gap is made of the characters on
both sides of them. -/
def gaps (previous : Nat) : List (Nat × Nat) → List (Nat × Nat)
  | [] => if previous < 0x10FFFF then [(after previous, 0x10FFFF)] else []
  | range :: rest =>
    (min (after previous) (before range.1), max (after previous) (before range.1)) ::
      gaps range.2 rest

/-- The characters that a set has not. -/
def compl (set : CharSet) : CharSet :=
  match set.ranges with
  | [] => all
  | range :: rest =>
    ⟨(if 0 < range.1 then [(0, before range.1)] else []) ++ gaps range.2 rest⟩

/-- The set, or the characters that it has not. -/
def complIf (outside : Bool) (set : CharSet) : CharSet :=
  if outside then set.compl else set

/-! ## Case -/

/-- The code points that case folding changes, with what it makes of them. -/
def foldPairs : List (Nat × Nat) :=
  Unicode.foldRuns.flatMap Unicode.FoldRun.pairs

/-- The characters that differ from one of the set in case alone. -/
def fold (set : CharSet) : CharSet :=
  let targets := (foldPairs.filter fun pair => set.contains pair.1).map Prod.snd
  let reached := set.union (ofCodes targets)
  let sources := (foldPairs.filter fun pair => reached.contains pair.2).map Prod.fst
  reached.union (ofCodes sources)

/-- The letters of ASCII between two others, moved by a distance. -/
def moved (set : CharSet) (first last : Nat) (move : Nat → Nat) : List (Nat × Nat) :=
  (set.inter (range first last)).ranges.map fun range => (move range.1, move range.2)

/-- The characters that differ from one of the set in the case of a letter of
ASCII. -/
def foldAscii (set : CharSet) : CharSet :=
  ofRanges (set.ranges ++ set.moved 0x41 0x5A (· + 0x20) ++ set.moved 0x61 0x7A (· - 0x20))

end CharSet

end PathQuery
