import Mathlib.Tactic.Ring
import PathQuery.Proofs.Number.ExactOrder
import PathQuery.Proofs.Number.NumeralText

/-!
# The numerals that numbers are printed as

A double is printed as a decimal that lies among the reals rounding to it, and these differ
from those of every other double.  The decimal can be read off the numeral that is printed, so
the text of a number tells which number it is.
-/

namespace PathQuery

/-! ## Decimals on the grid -/

namespace Decimal

/-- The value of a decimal as a multiple of `10 ^ (-1074)`, if it is one. -/
def onGrid (d : Decimal) : Nat :=
  d.digits * 10 ^ (d.exponent - Binary64.gridExponent).toNat

/-- Zeros that are moved into the exponent leave the value as it is. -/
theorem dropZeros_onGrid (count : Nat) {d : Decimal} (h : Binary64.gridExponent ≤ d.exponent) :
    Binary64.gridExponent ≤ (d.dropZeros count).exponent ∧
      (d.dropZeros count).onGrid = d.onGrid := by
  induction count generalizing d with
  | zero => exact ⟨h, rfl⟩
  | succ count ih =>
      rw [dropZeros]
      split
      next hzero =>
        have hnext : Binary64.gridExponent ≤ d.exponent + 1 := by omega
        obtain ⟨hexponent, hvalue⟩ := @ih ⟨d.digits / 10, d.exponent + 1⟩ hnext
        have hpower : (d.exponent + 1 - Binary64.gridExponent).toNat =
            (d.exponent - Binary64.gridExponent).toNat + 1 := by omega
        have hdigits : d.digits / 10 * 10 = d.digits := by omega
        refine ⟨hexponent, hvalue.trans ?_⟩
        rw [onGrid, onGrid, hpower, pow_succ', ← Nat.mul_assoc, hdigits]
      next => exact ⟨h, rfl⟩

end Decimal

/-! ## The reals that round to a double -/

namespace Binary64

variable {x y : Binary64} {n : Nat}

theorem exactDecimal_eq (x : Binary64) : x.exactDecimal = x.significand * x.quarterGap := by
  rw [exactDecimal, magnitude, quarterGap, Nat.mul_assoc]

theorem quarterGap_pos (x : Binary64) : 0 < x.quarterGap :=
  Nat.mul_pos (Nat.two_pow_pos _) (Nat.pow_pos (by decide))

/-- What rounds to a double is at most half way from either neighbour, and nearer where the
significand is odd. -/
theorem readsBack_bounds (h : x.readsBack n = true) :
    4 * (x.significand * x.quarterGap) ≤
        4 * n + (if x.narrowBelow then x.quarterGap else 2 * x.quarterGap) ∧
      4 * n ≤ 4 * (x.significand * x.quarterGap) + 2 * x.quarterGap ∧
      (x.significand % 2 = 1 → 4 * n < 4 * (x.significand * x.quarterGap) + 2 * x.quarterGap ∧
        4 * (x.significand * x.quarterGap) <
          4 * n + (if x.narrowBelow then x.quarterGap else 2 * x.quarterGap)) := by
  rw [readsBack, exactDecimal_eq] at h
  generalize (if x.narrowBelow then x.quarterGap else 2 * x.quarterGap) = below at h ⊢
  split at h
  next heven =>
    simp only [Bool.and_eq_true, decide_eq_true_eq] at h
    omega
  next hodd =>
    simp only [Bool.and_eq_true, decide_eq_true_eq] at h
    omega

theorem readsBack_exact (x : Binary64) : x.readsBack x.exactDecimal = true := by
  have hgap := x.quarterGap_pos
  rw [readsBack]
  split
  · simp only [Bool.and_eq_true, decide_eq_true_eq]
    omega
  · simp only [Bool.and_eq_true, decide_eq_true_eq]
    have hpos : 0 < x.exactDecimal := by
      rw [exactDecimal_eq]
      exact Nat.mul_pos (by omega) hgap
    split
    · omega
    · omega

/-- A quarter of the last place of a double is one of a lower double, times a power of two. -/
theorem quarterGap_eq (h : x.shift ≤ y.shift) :
    y.quarterGap = 2 ^ (y.shift - x.shift) * x.quarterGap := by
  rw [quarterGap, quarterGap, ← Nat.mul_assoc, ← Nat.pow_add, Nat.sub_add_cancel h]

/-- A significand of a lower binade, against the least one of a higher binade. -/
theorem below_binade {low bottom power : Nat} (hlow : low < 2 * bottom)
    (heven : bottom % 2 = 0) (hpower : 2 ≤ power) :
    4 * low + 2 + power ≤ 4 * bottom * power ∧
      (4 * low + 2 + power = 4 * bottom * power → low % 2 = 1) := by
  obtain ⟨k, rfl⟩ := Nat.exists_eq_add_of_le hpower
  have hbottom : k ≤ bottom * k := Nat.le_mul_of_pos_left k (by omega)
  have hsplit : 4 * bottom * (2 + k) = 8 * bottom + 4 * (bottom * k) := by ring
  omega

/-- A significand of a lower binade, against one inside of a higher binade. -/
theorem below_inner {low bottom high power : Nat} (hlow : low < 2 * bottom)
    (hhigh : bottom < high) (hpower : 2 ≤ power) :
    4 * low + 2 + 2 * power < 4 * high * power := by
  obtain ⟨k, rfl⟩ := Nat.exists_eq_add_of_le hpower
  have hbottom : k ≤ high * k := Nat.le_mul_of_pos_left k (by omega)
  have hsplit : 4 * high * (2 + k) = 8 * high + 4 * (high * k) := by ring
  omega

/-- Half way from a double to the next one, in quarters of the last place, is not beyond half
way from a higher double back; both are the same place only between neighbours, one of which is
odd.  With one shift for both the higher double is at least one place above; with a greater one
it is at the bottom of its binade or above it. -/
theorem halfway_le (h : x.magnitude < y.magnitude) :
    x.shift ≤ y.shift ∧
      4 * x.significand + 2 + (if y.narrowBelow then 1 else 2) * 2 ^ (y.shift - x.shift) ≤
        4 * y.significand * 2 ^ (y.shift - x.shift) ∧
      (4 * x.significand + 2 + (if y.narrowBelow then 1 else 2) * 2 ^ (y.shift - x.shift) =
          4 * y.significand * 2 ^ (y.shift - x.shift) →
        x.significand % 2 = 1 ∨ y.significand % 2 = 1) := by
  have hshift : x.shift ≤ y.shift := by
    by_contra hlt
    have hsmall := magnitude_lt (Nat.lt_of_not_le hlt)
    have hlong : 2 ^ 52 ≤ x.significand := x.canonical.2.2.resolve_left (by omega)
    have hlarge : 2 ^ 52 * 2 ^ x.shift ≤ x.magnitude := Nat.mul_le_mul_right _ hlong
    omega
  have hx : x.significand < 2 ^ 53 := x.canonical.1
  refine ⟨hshift, ?_⟩
  rcases Nat.eq_or_lt_of_le hshift with hsame | hlt
  · rw [magnitude, magnitude, hsame] at h
    have hplace := Nat.lt_of_mul_lt_mul_right h
    rw [hsame, Nat.sub_self, Nat.pow_zero]
    split
    · omega
    · omega
  · have hlong : 2 ^ 52 ≤ y.significand := y.canonical.2.2.resolve_left (by omega)
    have hpower : 2 ≤ 2 ^ (y.shift - x.shift) := Nat.le_self_pow (by omega) 2
    have htop : x.significand < 2 * 2 ^ 52 := by
      rwa [← Nat.pow_succ']
    by_cases hnarrow : y.narrowBelow = true
    · rw [if_pos hnarrow, Nat.one_mul]
      rw [narrowBelow, Bool.and_eq_true, beq_iff_eq] at hnarrow
      rw [hnarrow.1]
      obtain ⟨hle, heq⟩ := below_binade htop (by decide) hpower
      exact ⟨hle, fun h => .inl (heq h)⟩
    · rw [if_neg hnarrow]
      have hne : 2 ^ 52 < y.significand := by
        refine Nat.lt_of_le_of_ne hlong fun hbottom => hnarrow ?_
        rw [narrowBelow, ← hbottom, beq_self_eq_true, Bool.true_and, decide_eq_true_eq]
        exact Nat.zero_lt_of_lt hlt
      have hless := below_inner htop hne hpower
      exact ⟨hless.le, fun h => absurd h hless.ne⟩

/-- No real rounds to two doubles: it would be half way between them, and one of the two does not
include that place. -/
theorem magnitude_eq_of_readsBack (hx : x.readsBack n = true) (hy : y.readsBack n = true) :
    x.magnitude = y.magnitude := by
  by_contra hne
  wlog hlt : x.magnitude < y.magnitude generalizing x y
  · exact this hy hx (Ne.symm hne) (by omega)
  obtain ⟨hshift, hle, heq⟩ := halfway_le hlt
  obtain ⟨-, hupper, hodd⟩ := readsBack_bounds hx
  obtain ⟨hlower, -, hodd'⟩ := readsBack_bounds hy
  have hbelow : (if y.narrowBelow then y.quarterGap else 2 * y.quarterGap) =
      (if y.narrowBelow then 1 else 2) * y.quarterGap := by
    split
    · rw [Nat.one_mul]
    · rfl
  rw [hbelow, quarterGap_eq hshift] at hlower hodd'
  generalize (if y.narrowBelow then 1 else 2) = places at *
  generalize 2 ^ (y.shift - x.shift) = power at *
  have hplaces := Nat.mul_le_mul_right x.quarterGap hle
  have hleft : (4 * x.significand + 2 + places * power) * x.quarterGap =
      4 * (x.significand * x.quarterGap) + 2 * x.quarterGap +
        places * (power * x.quarterGap) := by ring
  have hright : 4 * y.significand * power * x.quarterGap =
      4 * (y.significand * (power * x.quarterGap)) := by ring
  have hmeet : (4 * x.significand + 2 + places * power) * x.quarterGap =
      4 * y.significand * power * x.quarterGap := by omega
  rcases heq (Nat.eq_of_mul_eq_mul_right x.quarterGap_pos hmeet) with hxodd | hyodd
  · have hstrict := (hodd hxodd).1
    omega
  · have hstrict := (hodd' hyodd).2
    omega

/-! ## The shortest decimal -/

/-- A point of a coarser grid is taken only if it rounds to the double. -/
theorem readsBack_of_pointOnGrid {grid : Nat} (h : x.pointOnGrid grid = some n) :
    x.readsBack (n * grid) = true := by
  rw [pointOnGrid] at h
  generalize x.exactDecimal / grid = lower at h
  split at h
  next hboth =>
    rw [Bool.and_eq_true] at hboth
    have hn : n = lower ∨ n = lower + 1 := by
      split at h
      · exact .inl (Option.some.inj h).symm
      · exact .inr (Option.some.inj h).symm
      · rw [← Option.some.inj h]
        exact ite_eq_or_eq _ _ _
    rcases hn with rfl | rfl
    · exact hboth.1
    · exact hboth.2
  next =>
    split at h
    next hbelow =>
      rw [← Option.some.inj h]
      exact hbelow
    next =>
      split at h
      next habove =>
        rw [← Option.some.inj h]
        exact habove
      next => cases h

/-- The shortest decimal rounds to its double. -/
theorem shortest_readsBack (x : Binary64) :
    gridExponent ≤ x.shortest.exponent ∧ x.readsBack x.shortest.onGrid = true := by
  rw [shortest]
  generalize decimalLength x.exactDecimal = length
  generalize hfound : (List.range 17).findSome? _ = found
  have hgood : gridExponent ≤ (found.getD ⟨x.exactDecimal, gridExponent⟩).exponent ∧
      x.readsBack (found.getD ⟨x.exactDecimal, gridExponent⟩).onGrid = true := by
    cases found with
    | none =>
        refine ⟨le_refl _, ?_⟩
        rw [Option.getD_none, Decimal.onGrid, sub_self, Int.toNat_zero, Nat.pow_zero, Nat.mul_one]
        exact x.readsBack_exact
    | some d =>
        obtain ⟨i, -, hpoint⟩ := List.exists_of_findSome?_eq_some hfound
        obtain ⟨digits, hdigits, rfl⟩ := Option.map_eq_some_iff.1 hpoint
        refine ⟨by simp, ?_⟩
        rw [Option.getD_some, Decimal.onGrid, add_sub_cancel_left, Int.toNat_natCast]
        exact readsBack_of_pointOnGrid hdigits
  obtain ⟨hexponent, hvalue⟩ := Decimal.dropZeros_onGrid length hgood.1
  exact ⟨hexponent, hvalue ▸ hgood.2⟩

/-- Nothing but a zero is written with the digit zero. -/
theorem shortest_digits_ne_zero (h : x.significand ≠ 0) : x.shortest.digits ≠ 0 := by
  intro hzero
  have hgap := x.quarterGap_pos
  have hback := x.shortest_readsBack.2
  rw [Decimal.onGrid, hzero, Nat.zero_mul] at hback
  obtain ⟨hlower, -, -⟩ := readsBack_bounds hback
  have hlarge : x.quarterGap ≤ x.significand * x.quarterGap :=
    Nat.le_mul_of_pos_left _ (Nat.pos_of_ne_zero h)
  split at hlower
  · omega
  · omega

end Binary64

/-! ## Printed numerals -/

namespace Numeral

/-- The digits of a numeral as a number, with the power of ten that the last one stands for. -/
def decimal (numeral : Numeral) : Decimal where
  digits := (numeral.whole ++ numeral.fraction.getD []).foldl (fun n c => n * 10 + digit c) 0
  exponent := exponentValue numeral.exponent - (numeral.fraction.getD []).length

/-- If a text is, behind either sign, that of a numeral that is no integer and has a value on
the grid. -/
def Prints (text : List Char) (value : Nat) : Prop :=
  ∃ whole fraction exponent, (fraction ≠ none ∨ exponent ≠ none) ∧
    (∀ negative, IsText ⟨negative, whole, fraction, exponent⟩ (sign negative ++ text)) ∧
    (decimal ⟨false, whole, fraction, exponent⟩).onGrid = value

theorem foldl_zeros (n count : Nat) :
    (List.replicate count '0').foldl (fun n c => n * 10 + digit c) n = n * 10 ^ count := by
  induction count generalizing n with
  | zero => simp
  | succ count ih =>
      rw [List.replicate_succ, List.foldl_cons, ih, pow_succ', ← Nat.mul_assoc]
      rfl

/-- Digits around a point are a numeral. -/
theorem prints_point {whole fraction : List Char} (hwhole : Digits whole)
    (hhead : whole.head? = some '0' → whole = ['0']) (hfraction : Digits fraction) :
    Prints (whole ++ '.' :: fraction) (Decimal.onGrid
      ⟨(whole ++ fraction).foldl (fun n c => n * 10 + digit c) 0, -fraction.length⟩) := by
  refine ⟨whole, some fraction, none, .inl nofun, fun negative => ?_, ?_⟩
  · have htext : IsText ⟨negative, whole, some fraction, none⟩
        (sign negative ++ (whole ++ ('.' :: fraction ++ []))) :=
      .parts hwhole hhead (.present hfraction) .absent
    rwa [List.append_nil] at htext
  · rw [decimal, exponentValue, Option.getD_some, zero_sub]

/-- A digit, perhaps with others behind a point, and an exponent with its sign are a numeral. -/
theorem prints_scientific {first : Char} {others : List Char}
    (hdigits : ∀ c ∈ first :: others, c.isDigit = true) (exponent : Int) :
    Prints ([first] ++ (if others.isEmpty then [] else '.' :: others) ++
        'e' :: (if exponent < 0 then '-' else '+') :: Nat.toDigits 10 exponent.natAbs)
      (Decimal.onGrid ⟨(first :: others).foldl (fun n c => n * 10 + digit c) 0,
        exponent - others.length⟩) := by
  have hwhole : Digits [first] := by
    refine ⟨nofun, fun c hc => hdigits c ?_⟩
    rw [List.mem_singleton.1 hc]
    exact List.mem_cons_self
  have hfraction : FractionText (if others.isEmpty then none else some others)
      (if others.isEmpty then [] else '.' :: others) := by
    split
    next => exact .absent
    next hne =>
      refine .present ⟨fun h => hne (List.isEmpty_iff.2 h), fun c hc => hdigits c ?_⟩
      exact List.mem_cons_of_mem first hc
  have hsign : ExponentSign (decide (exponent < 0)) [if exponent < 0 then '-' else '+'] := by
    by_cases hnegative : exponent < 0
    · rw [if_pos hnegative, decide_eq_true hnegative]
      exact .minus
    · rw [if_neg hnegative, decide_eq_false hnegative]
      exact .plus
  refine ⟨[first], if others.isEmpty then none else some others,
    some (decide (exponent < 0), Nat.toDigits 10 exponent.natAbs), .inr nofun,
    fun negative => ?_, ?_⟩
  · have hhead : [first].head? = some '0' → [first] = ['0'] := by
      rintro ⟨⟩
      rfl
    have hexponent : ExponentText (some (decide (exponent < 0), Nat.toDigits 10 exponent.natAbs))
        ('e' :: ([if exponent < 0 then '-' else '+'] ++ Nat.toDigits 10 exponent.natAbs)) :=
      .present (.inl rfl) hsign (digits_toDigits exponent.natAbs)
    rw [List.append_assoc]
    exact .parts hwhole hhead hfraction hexponent
  · have hexponent : exponentValue (some (decide (exponent < 0), Nat.toDigits 10 exponent.natAbs)) =
        exponent := by
      simp only [exponentValue, foldl_toDigits, decide_eq_true_eq]
      split
      · omega
      · omega
    rw [decimal, hexponent]
    cases others with
    | nil => rfl
    | cons c rest => rfl

end Numeral

section Layout

variable {d : Decimal}

/-- The digits of a decimal other than zero begin with no zero. -/
theorem toDigits_head_ne_zero {n : Nat} (h : n ≠ 0) : (Nat.toDigits 10 n).head? ≠ some '0' := by
  intro hhead
  have hvalue := foldl_toDigits n
  rw [toDigits_head n hhead] at hvalue
  exact h hvalue.symm

theorem digits_zeros (count : Nat) : ∀ c ∈ List.replicate count '0', c.isDigit = true := by
  intro c hc
  rw [List.eq_of_mem_replicate hc]
  rfl

theorem digits_zero : Digits ['0'] :=
  ⟨nofun, digits_zeros 1⟩

theorem Decimal.onGrid_eq {digits : Nat} {exponent : Int} (hdigits : digits = d.digits)
    (hexponent : exponent = d.exponent) : onGrid ⟨digits, exponent⟩ = d.onGrid := by
  rw [hdigits, hexponent]

section Digits

variable {digits : List Char} (hdigits : Digits digits)
include hdigits

/-- Zeros between the digits and a point; the one behind the point is a digit of the numeral. -/
theorem prints_integer (hhead : digits.head? ≠ some '0') (count : Nat) :
    Numeral.Prints (digits ++ List.replicate count '0' ++ ['.', '0']) (Decimal.onGrid
      ⟨digits.foldl (fun n c => n * 10 + Numeral.digit c) 0, count⟩) := by
  have hwhole : Digits (digits ++ List.replicate count '0') :=
    ⟨List.append_ne_nil_of_left_ne_nil hdigits.nonempty _,
      List.forall_mem_append.2 ⟨hdigits.all, digits_zeros count⟩⟩
  have hfirst : (digits ++ List.replicate count '0').head? ≠ some '0' := by
    obtain ⟨first, others, rfl⟩ := List.exists_cons_of_ne_nil hdigits.nonempty
    exact hhead
  have hprints := Numeral.prints_point hwhole (fun h => absurd h hfirst) digits_zero
  rw [List.append_assoc _ _ ['0'], ← List.replicate_succ', List.foldl_append,
    Numeral.foldl_zeros] at hprints
  have hplaces : count + 1 + (-((['0'].length : Nat) : Int) - Binary64.gridExponent).toNat =
      ((count : Int) - Binary64.gridExponent).toNat := by
    unfold Binary64.gridExponent Binary64.precision
    simp only [List.length_singleton]
    omega
  rwa [Decimal.onGrid, Nat.mul_assoc, ← Nat.pow_add, hplaces] at hprints

/-- A point between two of the digits. -/
theorem prints_inside (hhead : digits.head? ≠ some '0') {count : Nat} (hcount : 0 < count)
    (hless : count < digits.length) :
    Numeral.Prints (digits.take count ++ '.' :: digits.drop count) (Decimal.onGrid
      ⟨digits.foldl (fun n c => n * 10 + Numeral.digit c) 0,
        -((digits.length - count : Nat) : Int)⟩) := by
  have hwhole : Digits (digits.take count) := by
    refine ⟨?_, fun c hc => hdigits.all c (List.mem_of_mem_take hc)⟩
    rw [Ne, List.take_eq_nil_iff, not_or]
    exact ⟨hcount.ne', hdigits.nonempty⟩
  have hfraction : Digits (digits.drop count) := by
    refine ⟨?_, fun c hc => hdigits.all c (List.mem_of_mem_drop hc)⟩
    rw [Ne, List.drop_eq_nil_iff]
    exact hless.not_ge
  have hfirst : (digits.take count).head? ≠ some '0' := by
    rwa [List.head?_take, if_neg hcount.ne']
  have hprints := Numeral.prints_point hwhole (fun h => absurd h hfirst) hfraction
  rwa [List.take_append_drop, List.length_drop] at hprints

/-- Zeros between a point and the digits. -/
theorem prints_fraction (count : Nat) :
    Numeral.Prints ('0' :: '.' :: List.replicate count '0' ++ digits) (Decimal.onGrid
      ⟨digits.foldl (fun n c => n * 10 + Numeral.digit c) 0,
        -((count + digits.length : Nat) : Int)⟩) := by
  have hfraction : Digits (List.replicate count '0' ++ digits) :=
    ⟨List.append_ne_nil_of_right_ne_nil _ hdigits.nonempty,
      List.forall_mem_append.2 ⟨digits_zeros count, hdigits.all⟩⟩
  have hprints := Numeral.prints_point digits_zero (fun _ => rfl) hfraction
  rw [← List.append_assoc, ← List.replicate_one, List.replicate_append_replicate,
    List.foldl_append, Numeral.foldl_zeros, Nat.zero_mul, List.length_append,
    List.length_replicate] at hprints
  exact hprints

end Digits

/-- A decimal that is laid out is a numeral of its value. -/
theorem DecimalLayout.write_prints (layout : DecimalLayout) (hnonzero : d.digits ≠ 0) :
    Numeral.Prints (layout.write d) d.onGrid := by
  have hdigits := digits_toDigits d.digits
  have hhead := toDigits_head_ne_zero hnonzero
  have hvalue := foldl_toDigits d.digits
  rw [write]
  generalize Nat.toDigits 10 d.digits = digits at hdigits hhead hvalue
  have hlength := List.length_pos_iff.2 hdigits.nonempty
  simp only
  split
  next =>
    split
    next hexponent =>
      have hprints := prints_integer hdigits hhead d.exponent.toNat
      rwa [Decimal.onGrid_eq hvalue (Int.toNat_of_nonneg hexponent)] at hprints
    next hexponent =>
      split
      next hleading =>
        have hprints := prints_inside hdigits hhead (Nat.succ_pos _)
          (by omega : (d.exponent + digits.length - 1).toNat + 1 < digits.length)
        rwa [Decimal.onGrid_eq hvalue (by omega)] at hprints
      next hleading =>
        have hprints := prints_fraction hdigits (-(d.exponent + digits.length - 1) - 1).toNat
        rwa [Decimal.onGrid_eq hvalue (by omega)] at hprints
  next =>
    obtain ⟨first, others, rfl⟩ := List.exists_cons_of_ne_nil hdigits.nonempty
    have hprints := Numeral.prints_scientific hdigits.all
      (d.exponent + (first :: others).length - 1)
    rwa [Decimal.onGrid_eq hvalue (by rw [List.length_cons]; omega)] at hprints

end Layout

/-! ## The texts of numbers -/

theorem Decimal.onGrid_zero (exponent : Int) : onGrid ⟨0, exponent⟩ = 0 :=
  Nat.zero_mul _

theorem Numeral.prints_zero : Numeral.Prints ['0', '.', '0'] 0 := by
  have hprints := prints_point digits_zero (fun _ => rfl) digits_zero
  have hvalue : (['0'] ++ ['0']).foldl (fun n c => n * 10 + digit c) 0 = 0 := rfl
  rwa [hvalue, Decimal.onGrid_zero] at hprints

theorem Numeral.sign_append (negative : Bool) (text : List Char) :
    sign negative ++ text = if negative then '-' :: text else text := by
  cases negative with
  | true => rfl
  | false => rfl

/-- A double is printed as a numeral that is no integer, has its sign, and rounds to it. -/
theorem Binary64.text_isText (x : Binary64) :
    ∃ numeral : Numeral, numeral.IsText x.text ∧ numeral.integerValue = none ∧
      numeral.negative = x.negative ∧ x.readsBack numeral.decimal.onGrid = true := by
  have hprints : ∃ value, Numeral.Prints
      (if x.significand = 0 then ['0', '.', '0'] else layout.write x.shortest) value ∧
        x.readsBack value = true := by
    by_cases hzero : x.significand = 0
    · rw [if_pos hzero]
      have hexact := x.readsBack_exact
      rw [exactDecimal_eq, hzero, Nat.zero_mul] at hexact
      exact ⟨0, Numeral.prints_zero, hexact⟩
    · rw [if_neg hzero]
      exact ⟨_, layout.write_prints (shortest_digits_ne_zero hzero), x.shortest_readsBack.2⟩
  obtain ⟨_, ⟨whole, fraction, exponent, hdouble, htext, rfl⟩, hback⟩ := hprints
  refine ⟨⟨x.negative, whole, fraction, exponent⟩, ?_, ?_, rfl, hback⟩
  · rw [text, ← Numeral.sign_append]
    exact htext x.negative
  · rw [Numeral.integerValue]
    split
    next hfraction hexponent => exact absurd hdouble (by simp_all)
    next => rfl

/-- A text belongs to one numeral. -/
theorem Numeral.IsText.unique {numeral numeral' : Numeral} {text : List Char}
    (h : numeral.IsText text) (h' : numeral'.IsText text) : numeral = numeral' := by
  have hread := Numeral.read_text h
  rw [Numeral.read_text h'] at hread
  exact (Prod.mk.inj (Option.some.inj hread)).1.symm

/-- The sign and the magnitude tell a double. -/
theorem Binary64.eq_of_magnitude {x y : Binary64} (hsign : x.negative = y.negative)
    (hmagnitude : x.magnitude = y.magnitude) : x = y := by
  have hunits : x.units = y.units := by rw [units, units, hsign, hmagnitude]
  have hsignificand := significand_eq hunits
  have hshift : x.shift = y.shift := by
    by_cases hzero : x.significand = 0
    · have hx := x.canonical.2.2
      have hy := y.canonical.2.2
      omega
    · rw [magnitude, magnitude, ← hsignificand] at hmagnitude
      exact Nat.pow_right_injective (le_refl 2)
        (Nat.eq_of_mul_eq_mul_left (Nat.pos_of_ne_zero hzero) hmagnitude)
  obtain ⟨negative, significand, shift, canonical⟩ := x
  obtain rfl : negative = y.negative := hsign
  obtain rfl : significand = y.significand := hsignificand
  obtain rfl : shift = y.shift := hshift
  rfl

/-- Two numbers of one text are the same number, the sign of a zero included. -/
theorem Number.text_injective {a b : Number} (h : a.text = b.text) : a = b := by
  have hmixed : ∀ (i : Int) (hi : -2 ^ 63 ≤ i ∧ i < 2 ^ 64) (x : Binary64),
      integerText i ≠ x.text := by
    intro i hi x hsame
    obtain ⟨numeral, htext, hvalue⟩ := Number.isText_integerText i hi
    obtain ⟨numeral', htext', hnone, -, -⟩ := x.text_isText
    rw [hsame] at htext
    rw [htext.unique htext', Numeral.value, hnone, Option.orElse_none,
      Option.map_eq_some_iff] at hvalue
    obtain ⟨double, -, hkind⟩ := hvalue
    cases hkind
  cases a with
  | int i hi =>
      cases b with
      | int j hj =>
          have hread := Number.ofText?_text (Number.isText_integerText i hi)
          have hread' := Number.ofText?_text (Number.isText_integerText j hj)
          have hsame : integerText i = integerText j := h
          rw [hsame, hread'] at hread
          exact (Option.some.inj hread).symm
      | double y => exact absurd h (hmixed i hi y)
  | double x =>
      cases b with
      | int j hj => exact absurd h.symm (hmixed j hj x)
      | double y =>
          have hsame : x.text = y.text := h
          obtain ⟨numeral, htext, -, hsign, hback⟩ := x.text_isText
          obtain ⟨numeral', htext', -, hsign', hback'⟩ := y.text_isText
          obtain rfl := htext.unique (hsame ▸ htext')
          congr 1
          exact Binary64.eq_of_magnitude (hsign.symm.trans hsign')
            (Binary64.magnitude_eq_of_readsBack hback hback')

/-- The characters of the text of a number. -/
theorem Number.text_chars (a : Number) :
    ∀ c ∈ a.text, c.isDigit = true ∨ c ∈ ['-', '+', '.', 'e', 'E'] := by
  cases a with
  | int i hi =>
      obtain ⟨numeral, htext, -⟩ := Number.isText_integerText i hi
      exact htext.chars
  | double x =>
      obtain ⟨numeral, htext, -⟩ := x.text_isText
      exact htext.chars

end PathQuery
