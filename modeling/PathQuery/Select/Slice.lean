import PathQuery.Select.LazyList

/-!
# Slices

A slice takes the elements of an array from a start towards a stop in equal
strides.  A negative bound counts from the end of the array.
-/

namespace PathQuery

/-- The places of a slice: the next one, the first one beyond it, and the stride,
which is not zero. -/
structure Slice where
  next : Int
  stop : Int
  stride : Int
deriving DecidableEq

namespace Slice

/-- A bound counted from the beginning of an array. -/
def fromBeginning (count bound : Int) : Int :=
  if bound < 0 then count + bound else bound

/-- The places of a slice of an array of `count` elements. -/
def ofBounds (count : Nat) (start stop stride : Option Int) : Slice :=
  let stride := stride.getD 1
  let forward := 0 < stride
  let next := (start.map (fromBeginning count)).getD (if forward then 0 else count - 1)
  let stop := (stop.map (fromBeginning count)).getD (if forward then count else -1)
  { next := if forward then max 0 (min next count) else min next (count - 1)
    stop := max (-1) (min stop count)
    stride := stride }

/-- If there is a place left. -/
def inRange (slice : Slice) : Bool :=
  if 0 < slice.stride then slice.next < slice.stop else slice.stop < slice.next

/-- The slice behind its next place. -/
def advance (slice : Slice) : Slice :=
  { slice with next := slice.next + slice.stride }

/-- The element at a place, if there is one. -/
def element? {α : Type} (items : List α) (place : Int) : Option α :=
  if place < 0 then none else items[place.toNat]?

/-- The elements of a slice; an array of `rounds` elements has no more places. -/
def elements {α : Type} (items : List α) : Nat → Slice → LazyList α
  | 0, _ => .nil
  | rounds + 1, slice =>
    if slice.inRange then
      match element? items slice.next with
      | some item => .cons item fun _ => elements items rounds slice.advance
      | none => .nil
    else .nil

end Slice

end PathQuery
