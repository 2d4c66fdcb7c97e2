import PathQuery.Number.Basic

/-!
# Numerals

A numeral is the written form of a number: a sign, digits without a superfluous
leading zero, and perhaps a fraction and an exponent.  A numeral without
fraction and exponent is an integer if 64 bits suffice.  Every other numeral is a
double: the leading digits that fit 64 bits are scaled by a power of ten, which
is itself a double.  A numeral beyond the largest double has no value.
-/

namespace PathQuery

/-- The parts of a written number. -/
structure Numeral where
  negative : Bool
  whole : List Char
  fraction : Option (List Char)
  exponent : Option (Bool × List Char)

namespace Binary64

/-- The double nearest to a power of ten. -/
def powerOfTen (power : Nat) : Option Binary64 :=
  nearest (10 ^ power * unitsOfOne) 1

/-- The largest power of ten that is a double. -/
def maxPower : Nat := 308

/-- Scales a magnitude by a power of ten that is a double; nothing beyond the
largest double. -/
def scaleOnce (x : Binary64) (power : Int) : Option Binary64 :=
  (powerOfTen power.natAbs).bind fun factor =>
    if 0 ≤ power then x.mul factor else x.div factor

/-- Divides a magnitude by the largest power of ten again and again, until
nothing is left of it. -/
def shrink : Nat → Binary64 → Option Binary64
  | 0, x => some x
  | times + 1, x =>
    if x.significand = 0 then some x
    else (x.scaleOnce (-maxPower)).bind (shrink times)

/-- Scales a magnitude by a power of ten, in steps that are doubles; nothing
beyond the largest double. -/
def scale (x : Binary64) (power : Int) : Option Binary64 :=
  if x.significand = 0 then some x
  else if power.natAbs ≤ maxPower then x.scaleOnce power
  else if 0 < power then none
  else
    let times := (power.natAbs - 1) / maxPower
    (x.shrink times).bind (·.scaleOnce (power + times * maxPower))

end Binary64

namespace Numeral

/-- The value of a decimal digit. -/
def digit (c : Char) : Nat :=
  c.toNat - '0'.toNat

/-- The digits before the point: one zero, or digits that start with none. -/
def readWhole (text : List Char) : Option (List Char × List Char) :=
  match text.span Char.isDigit with
  | ([], _) => none
  | ('0' :: _ :: _, _) => none
  | (digits, rest) => some (digits, rest)

/-- The fraction, if a point follows. -/
def readFraction (text : List Char) : Option (Option (List Char) × List Char) :=
  match text with
  | '.' :: rest =>
    match rest.span Char.isDigit with
    | ([], _) => none
    | (digits, rest) => some (some digits, rest)
  | _ => some (none, text)

/-- The digits of an exponent and whether it is negative. -/
def readExponentDigits (negative : Bool) (text : List Char) :
    Option (Option (Bool × List Char) × List Char) :=
  match text.span Char.isDigit with
  | ([], _) => none
  | (digits, rest) => some (some (negative, digits), rest)

/-- The exponent, if its letter follows. -/
def readExponent (text : List Char) : Option (Option (Bool × List Char) × List Char) :=
  match text with
  | c :: rest =>
    if c = 'e' ∨ c = 'E' then
      match rest with
      | '+' :: rest => readExponentDigits false rest
      | '-' :: rest => readExponentDigits true rest
      | _ => readExponentDigits false rest
    else some (none, text)
  | [] => some (none, text)

/-- Reads the longest numeral at the front of a text. -/
def read (text : List Char) : Option (Numeral × List Char) := do
  let (negative, text) := match text with
    | '-' :: rest => (true, rest)
    | _ => (false, text)
  let (whole, text) ← readWhole text
  let (fraction, text) ← readFraction text
  let (exponent, text) ← readExponent text
  return (⟨negative, whole, fraction, exponent⟩, text)

/-- Adds digits to a significand for as long as it keeps to 64 bits; answers it
with the number of digits left over. -/
def takeDigits (significand : Nat) : List Char → Nat × Nat
  | [] => (significand, 0)
  | c :: rest =>
    if significand * 10 + digit c < 2 ^ 64 then takeDigits (significand * 10 + digit c) rest
    else (significand, rest.length + 1)

/-- The value of the exponent. -/
def exponentValue : Option (Bool × List Char) → Int
  | none => 0
  | some (negative, digits) =>
    let value := digits.foldl (fun n c => n * 10 + digit c) 0
    if negative then -(value : Int) else value

/-- The double that a numeral denotes, or nothing beyond the largest one. -/
def doubleValue (n : Numeral) : Option Binary64 := do
  let (significand, skipped) := takeDigits 0 n.whole
  let fraction := n.fraction.getD []
  let (significand, unread) := takeDigits significand fraction
  let power := skipped - (fraction.length - unread : Nat) + exponentValue n.exponent
  let leading ← Binary64.nearest (significand * Binary64.unitsOfOne) 1
  let magnitude ← leading.scale power
  return if n.negative then magnitude.neg else magnitude

/-- The integer that a numeral denotes, if it has neither fraction nor exponent
and 64 bits suffice; a negative zero is no integer. -/
def integerValue (n : Numeral) : Option Number :=
  match n.fraction, n.exponent with
  | none, none =>
    let magnitude : Int := n.whole.foldl (fun n c => n * 10 + digit c) 0
    let value := if n.negative then -magnitude else magnitude
    if h : -2 ^ 63 ≤ value ∧ value < 2 ^ 64 then
      if n.negative ∧ value = 0 then none else some (.int value h)
    else none
  | _, _ => none

/-- The number that a numeral denotes. -/
def value (n : Numeral) : Option Number :=
  n.integerValue.orElse fun _ => n.doubleValue.map .double

end Numeral

/-- The number that a whole text denotes, if it is a numeral. -/
def Number.ofText? (text : List Char) : Option Number :=
  match Numeral.read text with
  | some (numeral, []) => numeral.value
  | _ => none

end PathQuery
