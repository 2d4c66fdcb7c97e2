import PathQuery.Number.Binary64

/-!
# Shortest decimals

A double is written with the fewest decimal digits that lie among the reals
rounding to it; of two candidates of that length the nearer is taken, and the
even one if both are equally near.  Every double is a multiple of
`10 ^ (-1074)`, so the search runs on natural numbers.
-/

namespace PathQuery

/-- The decimal `digits * 10 ^ exponent`. -/
structure Decimal where
  digits : Nat
  exponent : Int
deriving DecidableEq

namespace Decimal

/-- Moves the zeros at the end of the digits, at most `count` of them, into the
exponent. -/
def dropZeros : Nat → Decimal → Decimal
  | 0, d => d
  | count + 1, d =>
    if d.digits % 10 = 0 then dropZeros count ⟨d.digits / 10, d.exponent + 1⟩ else d

end Decimal

namespace Binary64

/-- The exponent of the decimal grid that holds every double. -/
def gridExponent : Int := -(precision : Int)

/-- The exact value as a multiple of `10 ^ (-1074)`. -/
def exactDecimal (x : Binary64) : Nat :=
  x.magnitude * 5 ^ precision

/-- A quarter of the unit in the last place, as a multiple of a quarter of
`10 ^ (-1074)`. -/
def quarterGap (x : Binary64) : Nat :=
  2 ^ x.shift * 5 ^ precision

/-- If the neighbour below is half as far away as the neighbour above. -/
def narrowBelow (x : Binary64) : Bool :=
  x.significand == 2 ^ 52 && 0 < x.shift

/-- If the multiple `n` of `10 ^ (-1074)` is among the reals that round to the
magnitude of the double: halfway to either neighbour, ends included for an even
significand. -/
def readsBack (x : Binary64) (n : Nat) : Bool :=
  let exact := 4 * x.exactDecimal
  let low := exact - (if x.narrowBelow then x.quarterGap else 2 * x.quarterGap)
  let high := exact + 2 * x.quarterGap
  if x.significand % 2 = 0 then low ≤ 4 * n && 4 * n ≤ high
  else low < 4 * n && 4 * n < high

/-- The better of two neighbouring grid points `lower * grid` and
`(lower + 1) * grid` that reads back, if there is one. -/
def pointOnGrid (x : Binary64) (grid : Nat) : Option Nat :=
  let lower := x.exactDecimal / grid
  let below := x.readsBack (lower * grid)
  let above := x.readsBack ((lower + 1) * grid)
  if below && above then
    match Ord.compare (2 * x.exactDecimal) ((2 * lower + 1) * grid) with
    | .lt => some lower
    | .gt => some (lower + 1)
    | .eq => some (if lower % 2 = 0 then lower else lower + 1)
  else if below then some lower
  else if above then some (lower + 1)
  else none

/-- The number of decimal digits of a positive number below `2 ^ 60000`: three
tenths of the binary logarithm, and up to two more. -/
def decimalLength (n : Nat) : Nat :=
  let least := n.log2 * 301 / 1000
  if n < 10 ^ least then least else if n < 10 ^ (least + 1) then least + 1 else least + 2

/-- The shortest decimal that reads back; seventeen digits always suffice, and
the exact value stands behind the search. -/
def shortest (x : Binary64) : Decimal :=
  let length := decimalLength x.exactDecimal
  let found := (List.range 17).findSome? fun i =>
    (x.pointOnGrid (10 ^ (length - (i + 1)))).map fun digits =>
      (⟨digits, gridExponent + (length - (i + 1) : Nat)⟩ : Decimal)
  (found.getD ⟨x.exactDecimal, gridExponent⟩).dropZeros length

end Binary64

/-- How the digits of a double are laid out: the exponents of the leading digit
from `plainFrom` on and below `plainBelow` are written in plain form. -/
structure DecimalLayout where
  plainFrom : Int
  plainBelow : Int

namespace DecimalLayout

/-- Lays out a decimal: plain with at least one digit after the point, or
scientific with the sign of the exponent always written. -/
def write (layout : DecimalLayout) (d : Decimal) : List Char :=
  let digits := Nat.toDigits 10 d.digits
  let leading := d.exponent + digits.length - 1
  if layout.plainFrom ≤ leading ∧ leading < layout.plainBelow then
    if 0 ≤ d.exponent then
      digits ++ List.replicate d.exponent.toNat '0' ++ ['.', '0']
    else if 0 ≤ leading then
      digits.take (leading.toNat + 1) ++ '.' :: digits.drop (leading.toNat + 1)
    else
      '0' :: '.' :: List.replicate (-leading - 1).toNat '0' ++ digits
  else
    let fraction := digits.drop 1
    let mantissa := digits.take 1 ++ (if fraction.isEmpty then [] else '.' :: fraction)
    mantissa ++ 'e' :: (if leading < 0 then '-' else '+') :: Nat.toDigits 10 leading.natAbs

end DecimalLayout

/-- Numbers of a document stay in plain form from `0.00001` to below `10 ^ 16`. -/
def Binary64.layout : DecimalLayout := ⟨-5, 16⟩

/-- The text of a double: a sign for the negative ones, zero included, and the
shortest decimal. -/
def Binary64.text (x : Binary64) : List Char :=
  let body := if x.significand = 0 then ['0', '.', '0'] else Binary64.layout.write x.shortest
  if x.negative then '-' :: body else body

end PathQuery
