import PathQuery.Number.Shortest

/-!
# Numbers

A number of a document is an integer of at most 64 bits, signed or unsigned, or
a finite double.  Two integers are compared exactly; as soon as a double takes
part, an integer is first rounded to the nearest double.
-/

namespace PathQuery

/-- A number: an exact integer where 64 bits suffice, a double otherwise. -/
inductive Number
  | int (value : Int) (inRange : -2 ^ 63 ≤ value ∧ value < 2 ^ 64)
  | double (value : Binary64)
deriving DecidableEq

namespace Number

/-- The double nearest to a number. -/
def toDouble : Number → Binary64
  | .int value inRange => .ofInt value (by omega)
  | .double value => value

/-- The order of two numbers. -/
def order : Number → Number → Ordering
  | .int a _, .int b _ => compare a b
  | a, b => a.toDouble.compare b.toDouble

/-- If two numbers are the same constant: two integers or two doubles of one
value. -/
def same : Number → Number → Bool
  | .int a _, .int b _ => a == b
  | .double a, .double b => a.units == b.units
  | _, _ => false

/-- The text of an integer. -/
def integerText (i : Int) : List Char :=
  if i < 0 then '-' :: Nat.toDigits 10 i.natAbs else Nat.toDigits 10 i.natAbs

/-- The text of a number. -/
def text : Number → List Char
  | .int value _ => integerText value
  | .double value => value.text

end Number

end PathQuery
