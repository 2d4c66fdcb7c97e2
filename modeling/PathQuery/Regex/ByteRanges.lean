import PathQuery.Power
import PathQuery.Regex.CharSet

/-!
# Ranges of bytes

The UTF-8 forms of a range of characters fall into rows of byte ranges: a row
stands for all forms that take each byte from its range.  A range of characters
is cut where the number of bytes changes and where the bytes behind the leading
one would not run through all their values.
-/

namespace PathQuery

/-- A range of bytes, both ends included. -/
abbrev ByteRange := Nat × Nat

namespace ByteRange

/-- The bytes of the UTF-8 form of a code point. -/
def bytesOf (code : Nat) : List Nat :=
  (String.utf8EncodeChar (Char.ofNat code)).map UInt8.toNat

/-- The last code point of the first part of a range that is no single row. -/
def cut? (first last : Nat) : Option Nat :=
  match [0x7F, 0x7FF, 0xFFFF].find? fun bound => first ≤ bound && bound < last with
  | some bound => some bound
  | none =>
    if last ≤ 0x7F then none
    else
      [64, 64 ^ 2, 64 ^ 3].findSome? fun block =>
        if first / block = last / block then none
        else if first % block ≠ 0 then some ((first / block + 1) * block - 1)
        else if last % block ≠ block - 1 then some (last / block * block - 1)
        else none

/-- The rows of a range of code points that are no surrogates. -/
def rows (first last : Nat) : List (List ByteRange) :=
  match cut? first last with
  | none => [(bytesOf first).zip (bytesOf last)]
  | some middle =>
    if _h : first ≤ middle ∧ middle < last then
      rows first middle ++ rows (middle + 1) last
    else []
termination_by last - first

/-- The rows of a range of characters. -/
def rowsOfChars (range : Nat × Nat) : List (List ByteRange) :=
  if range.1 < 0xE000 ∧ 0xD7FF < range.2 then rows range.1 0xD7FF ++ rows 0xE000 range.2
  else rows range.1 range.2

end ByteRange

/-- The rows of byte ranges of a set. -/
def CharSet.byteRows (set : CharSet) : List (List ByteRange) :=
  set.ranges.flatMap ByteRange.rowsOfChars

end PathQuery
