import Mathlib.Data.Nat.Log
import PathQuery.Proofs.Number.NumeralText
import PathQuery.Proofs.Number.Rounding

/-!
# Doubles without a numeral

A numeral is read by scaling at most 64 bits of its digits by a power of ten, and both are
rounded before.  The greater the digits, the greater is the double that is read; but from one
number to the next it may pass over a double, and where every power of ten does, no numeral
denotes that double.  Main statement: there is such a double.
-/

namespace PathQuery

namespace Binary64

/-! ## Rounding is monotone -/

section Monotone

variable {num num' : Nat}

theorem roundQuotient_mono (h : num ≤ num') (den : Nat) :
    roundQuotient num den ≤ roundQuotient num' den := by
  have hdiv : num / den ≤ num' / den := Nat.div_le_div_right h
  have hsplit := Nat.div_add_mod' num den
  have hsplit' := Nat.div_add_mod' num' den
  have hrest : num / den = num' / den → num % den ≤ num' % den := by
    intro hsame
    rw [hsame] at hsplit
    omega
  rcases roundQuotient_cases num den with ⟨heq, -, -⟩ | ⟨heq, hhalf, hodd⟩
  · rcases roundQuotient_cases num' den with ⟨heq', -, -⟩ | ⟨heq', -, -⟩ <;> omega
  · rcases roundQuotient_cases num' den with ⟨heq', hhalf', heven'⟩ | ⟨heq', -, -⟩ <;> omega

/-- The units to which a quotient is rounded, be they those of a double or beyond the largest
one. -/
def rounded (num den : Nat) : Nat :=
  (roundUnits num den).1 * 2 ^ (roundUnits num den).2

theorem rounded_eq (num den : Nat) :
    rounded num den = roundQuotient num (den * 2 ^ ((num / den).log2 - 52)) *
      2 ^ ((num / den).log2 - 52) := by
  unfold rounded roundUnits
  simp only
  split
  next hfull =>
    rw [hfull]
    simp only
    rw [Nat.pow_succ 2 ((num / den).log2 - 52), Nat.mul_comm (2 ^ ((num / den).log2 - 52)),
      ← Nat.mul_assoc]
  next => rfl

/-- A greater quotient is rounded to no fewer units: with the same shift since its significand
is no less, and with a greater one since 53 bits of it are more than all bits before. -/
theorem rounded_mono (h : num ≤ num') (den : Nat) : rounded num den ≤ rounded num' den := by
  have hlog : (num / den).log2 ≤ (num' / den).log2 := by
    rw [Nat.log2_eq_log_two, Nat.log2_eq_log_two]
    exact Nat.log_mono_right (Nat.div_le_div_right h)
  rw [rounded_eq, rounded_eq]
  rcases Nat.eq_or_lt_of_le (Nat.sub_le_sub_right hlog 52) with hsame | hlt
  · rw [hsame]
    exact Nat.mul_le_mul_right _ (roundQuotient_mono h _)
  · have hden : 0 < den := by
      rcases Nat.eq_zero_or_pos den with rfl | hpos
      · simp at hlt
      · exact hpos
    calc
      _ ≤ 2 ^ 53 * 2 ^ ((num / den).log2 - 52) :=
        Nat.mul_le_mul_right _ (roundQuotient_le_two_pow hden)
      _ = 2 ^ 52 * 2 ^ ((num / den).log2 - 52 + 1) := by
        rw [Nat.pow_succ 2 ((num / den).log2 - 52), Nat.mul_comm (2 ^ ((num / den).log2 - 52)),
          ← Nat.mul_assoc]
      _ ≤ 2 ^ 52 * 2 ^ ((num' / den).log2 - 52) :=
        Nat.mul_le_mul_left _ (Nat.pow_le_pow_right (by decide) hlt)
      _ ≤ _ := Nat.mul_le_mul_right _ (two_pow_le_roundQuotient hden (Nat.zero_lt_of_lt hlt))

/-- A power of two is not passed by rounding. -/
theorem rounded_le_two_pow {den exponent : Nat} (hden : 0 < den) (h : num ≤ 2 ^ exponent * den) :
    rounded num den ≤ 2 ^ exponent := by
  have hquotient : num / den ≤ 2 ^ exponent := by
    rw [Nat.mul_comm] at h
    exact Nat.div_le_of_le_mul h
  have hshift : (num / den).log2 - 52 ≤ exponent := by
    have hlog : (num / den).log2 ≤ (2 ^ exponent).log2 := by
      rw [Nat.log2_eq_log_two, Nat.log2_eq_log_two]
      exact Nat.log_mono_right hquotient
    rw [Nat.log2_two_pow] at hlog
    omega
  have hsplit : 2 ^ exponent =
      2 ^ (exponent - ((num / den).log2 - 52)) * 2 ^ ((num / den).log2 - 52) := by
    rw [← Nat.pow_add, Nat.sub_add_cancel hshift]
  rw [rounded_eq]
  calc
    _ ≤ 2 ^ (exponent - ((num / den).log2 - 52)) * 2 ^ ((num / den).log2 - 52) := by
      apply Nat.mul_le_mul_right
      apply roundQuotient_le (Nat.mul_pos hden (Nat.two_pow_pos _))
      rwa [Nat.mul_comm den, ← Nat.mul_assoc, ← hsplit]
    _ = _ := hsplit.symm

end Monotone

/-! ## Scaling -/

theorem magnitude_of_nearest {num den : Nat} {x : Binary64} (h : nearest num den = some x) :
    x.magnitude = rounded num den := by
  unfold nearest at h
  simp only at h
  split at h
  next =>
    cases h
    rfl
  next => cases h

/-- The units of the double that digits are read as. -/
def unitsOfDigits (significand : Nat) : Nat :=
  rounded (significand * unitsOfOne) 1

/-- The units of a power of ten. -/
def unitsOfPower (power : Nat) : Nat :=
  rounded (10 ^ power * unitsOfOne) 1

/-- The units of a product with a power of ten. -/
def timesPower (power magnitude : Nat) : Nat :=
  rounded (magnitude * unitsOfPower power) unitsOfOne

/-- The units of a quotient by a power of ten. -/
def overPower (power magnitude : Nat) : Nat :=
  rounded (magnitude * unitsOfOne) (unitsOfPower power)

theorem unitsOfDigits_mono {n m : Nat} (h : n ≤ m) : unitsOfDigits n ≤ unitsOfDigits m :=
  rounded_mono (Nat.mul_le_mul_right _ h) 1

theorem unitsOfPower_mono {power power' : Nat} (h : power ≤ power') :
    unitsOfPower power ≤ unitsOfPower power' :=
  rounded_mono (Nat.mul_le_mul_right _ (Nat.pow_le_pow_right (by decide) h)) 1

theorem timesPower_mono {power power' n m : Nat} (hpower : power ≤ power') (h : n ≤ m) :
    timesPower power n ≤ timesPower power' m :=
  rounded_mono (Nat.mul_le_mul h (unitsOfPower_mono hpower)) _

/-- No power of ten is less than one. -/
theorem unitsOfOne_le_unitsOfPower (power : Nat) : unitsOfOne ≤ unitsOfPower power := by
  have hone : unitsOfPower 0 = unitsOfOne := by decide +kernel
  rw [← hone]
  exact unitsOfPower_mono (Nat.zero_le power)

/-- The units of `2 ^ 64`. -/
def greatestUnits : Nat :=
  2 ^ (64 + precision)

/-- A number of 64 bits is not rounded beyond `2 ^ 64`. -/
theorem unitsOfDigits_le {significand : Nat} (h : significand < 2 ^ 64) :
    unitsOfDigits significand ≤ greatestUnits := by
  apply rounded_le_two_pow Nat.one_pos
  rw [Nat.mul_one, Nat.pow_add, unitsOfOne]
  exact Nat.mul_le_mul_right _ (Nat.le_of_lt h)

/-- A quotient by a power of ten is not greater. -/
theorem overPower_le {magnitude : Nat} (h : magnitude ≤ greatestUnits) (power : Nat) :
    overPower power magnitude ≤ greatestUnits := by
  have hpower := unitsOfOne_le_unitsOfPower power
  have hone : 0 < unitsOfOne := Nat.two_pow_pos precision
  exact rounded_le_two_pow (Nat.lt_of_lt_of_le hone hpower) (Nat.mul_le_mul h hpower)

theorem magnitude_of_scaleOnce {x y : Binary64} {power : Int} (h : x.scaleOnce power = some y) :
    y.magnitude = if 0 ≤ power then timesPower power.natAbs x.magnitude
      else overPower power.natAbs x.magnitude := by
  obtain ⟨factor, hfactor, h⟩ := Option.bind_eq_some_iff.1 h
  have hunits : factor.magnitude = unitsOfPower power.natAbs := magnitude_of_nearest hfactor
  split
  next hpower =>
    rw [if_pos hpower] at h
    rw [magnitude_of_nearest h, hunits, timesPower]
  next hpower =>
    rw [if_neg hpower] at h
    rw [magnitude_of_nearest h, hunits, overPower]

/-! ## A double that is passed over -/

/-- The greatest double below `2 ^ 453`. -/
def passedOver : Binary64 :=
  ⟨false, 2 ^ 53 - 1, 1474, by decide⟩

/-- The greatest number of 64 bits with which one of the powers of ten from `10 ^ 118` to
`10 ^ 136` stays below that double. -/
def lastBelow (power : Nat) : Nat :=
  match power with
  | 118 => 2325883917745941760
  | 119 => 232588391774594192
  | 120 => 23258839177459418
  | _ => passedOver.magnitude / (10 ^ power * unitsOfOne)

/-- With the next number these powers of ten are beyond the double. -/
theorem lastBelow_splits : ∀ k < 19,
    timesPower (118 + k) (unitsOfDigits (lastBelow (118 + k))) < passedOver.magnitude ∧
      passedOver.magnitude < timesPower (118 + k) (unitsOfDigits (lastBelow (118 + k) + 1)) := by
  decide +kernel

/-- Smaller powers of ten do not lead up to the double, and greater ones lead beyond it. -/
theorem passedOver_between :
    timesPower 117 greatestUnits < passedOver.magnitude ∧
      passedOver.magnitude < timesPower 137 (unitsOfDigits 1) := by
  decide +kernel

theorem ne_of_le_greatestUnits {units : Nat} (h : units ≤ greatestUnits) :
    units ≠ passedOver.magnitude := by
  have hlt : greatestUnits < passedOver.magnitude := by decide +kernel
  exact Nat.ne_of_lt (Nat.lt_of_le_of_lt h hlt)

/-- No power of ten leads to the double. -/
theorem timesPower_ne (power : Nat) {significand : Nat} (h : significand < 2 ^ 64) :
    timesPower power (unitsOfDigits significand) ≠ passedOver.magnitude := by
  obtain ⟨hsmall, hlarge⟩ := passedOver_between
  by_cases hlow : power ≤ 117
  · have hlast := timesPower_mono hlow (unitsOfDigits_le h)
    exact Nat.ne_of_lt (Nat.lt_of_le_of_lt hlast hsmall)
  by_cases hhigh : 137 ≤ power
  · rcases Nat.eq_zero_or_pos significand with rfl | hpos
    · have hzero : unitsOfDigits 0 = 0 := by decide +kernel
      have hnone : timesPower power 0 ≤ greatestUnits := by
        apply rounded_le_two_pow (Nat.two_pow_pos precision)
        rw [Nat.zero_mul]
        exact Nat.zero_le _
      rw [hzero]
      exact ne_of_le_greatestUnits hnone
    · have hfirst := timesPower_mono hhigh (unitsOfDigits_mono (Nat.succ_le_of_lt hpos))
      exact Nat.ne_of_gt (Nat.lt_of_lt_of_le hlarge hfirst)
  obtain ⟨k, rfl⟩ : ∃ k, power = 118 + k := ⟨power - 118, by omega⟩
  obtain ⟨hbelow, habove⟩ := lastBelow_splits k (by omega)
  rcases Nat.lt_or_ge (lastBelow (118 + k)) significand with hlt | hge
  · have hnext := timesPower_mono (Nat.le_refl (118 + k)) (unitsOfDigits_mono hlt)
    exact Nat.ne_of_gt (Nat.lt_of_lt_of_le habove hnext)
  · have hlast := timesPower_mono (Nat.le_refl (118 + k)) (unitsOfDigits_mono hge)
    exact Nat.ne_of_lt (Nat.lt_of_le_of_lt hlast hbelow)

/-- Dividing again and again does not lead beyond `2 ^ 64`. -/
theorem magnitude_shrink_le {times : Nat} {x y : Binary64} (h : x.shrink times = some y)
    (hx : x.magnitude ≤ greatestUnits) : y.magnitude ≤ greatestUnits := by
  induction times generalizing x with
  | zero =>
      cases h
      exact hx
  | succ times ih =>
      rw [shrink] at h
      split at h
      next =>
        cases h
        exact hx
      next =>
        obtain ⟨middle, hmiddle, h⟩ := Option.bind_eq_some_iff.1 h
        refine ih h ?_
        rw [magnitude_of_scaleOnce hmiddle, if_neg (by decide)]
        exact overPower_le hx _

/-- No scaling leads to the double. -/
theorem magnitude_scale_ne {significand : Nat} (hsignificand : significand < 2 ^ 64)
    {x y : Binary64} (hx : x.magnitude = unitsOfDigits significand) {power : Int}
    (h : x.scale power = some y) : y.magnitude ≠ passedOver.magnitude := by
  have hgreatest : x.magnitude ≤ greatestUnits := by
    rw [hx]
    exact unitsOfDigits_le hsignificand
  rw [scale] at h
  split_ifs at h with hzero honce hlarge
  · cases h
    exact ne_of_le_greatestUnits hgreatest
  · rw [magnitude_of_scaleOnce h]
    split
    · rw [hx]
      exact timesPower_ne _ hsignificand
    · exact ne_of_le_greatestUnits (overPower_le hgreatest _)
  · obtain ⟨z, hshrink, h⟩ := Option.bind_eq_some_iff.1 h
    have hz := magnitude_shrink_le hshrink hgreatest
    unfold maxPower at h honce
    rw [magnitude_of_scaleOnce h, if_neg (by omega)]
    exact ne_of_le_greatestUnits (overPower_le hz _)

end Binary64

namespace Numeral

open Binary64

/-- The digits that are taken keep to 64 bits. -/
theorem takeDigits_lt {significand : Nat} (h : significand < 2 ^ 64) (digits : List Char) :
    (takeDigits significand digits).1 < 2 ^ 64 := by
  induction digits generalizing significand with
  | nil => exact h
  | cons c rest ih =>
      rw [takeDigits]
      split
      next hnext => exact ih hnext
      next => exact h

/-- No numeral is read as the double. -/
theorem doubleValue_ne (numeral : Numeral) : numeral.doubleValue ≠ some passedOver := by
  intro h
  unfold doubleValue at h
  simp only at h
  obtain ⟨leading, hleading, h⟩ := Option.bind_eq_some_iff.1 h
  obtain ⟨scaled, hscaled, h⟩ := Option.bind_eq_some_iff.1 h
  have hwhole : (takeDigits 0 numeral.whole).1 < 2 ^ 64 :=
    takeDigits_lt (Nat.two_pow_pos 64) numeral.whole
  have hdigits := takeDigits_lt hwhole (numeral.fraction.getD [])
  refine magnitude_scale_ne hdigits (magnitude_of_nearest hleading) hscaled ?_
  rw [← Option.some.inj h]
  split
  · rfl
  · rfl

/-- A numeral whose value is a double is no integer. -/
theorem doubleValue_of_value {numeral : Numeral} {x : Binary64}
    (h : numeral.value = some (.double x)) : numeral.doubleValue = some x := by
  have hinteger : numeral.integerValue ≠ some (.double x) := by
    unfold integerValue
    split
    · simp only
      split_ifs <;> simp
    · simp
  unfold value at h
  cases hvalue : numeral.integerValue with
  | none =>
      rw [hvalue, Option.orElse_none] at h
      obtain ⟨double, hdouble, hsame⟩ := Option.map_eq_some_iff.1 h
      cases hsame
      exact hdouble
  | some number =>
      rw [hvalue, Option.orElse_some] at h
      exact absurd (hvalue.trans h) hinteger

end Numeral

/-- No numeral denotes the greatest double below `2 ^ 453`. -/
theorem exists_double_without_numeral :
    ∃ value : Binary64, ∀ text, ¬ (Number.double value).IsText text := by
  refine ⟨Binary64.passedOver, ?_⟩
  rintro text ⟨numeral, -, hvalue⟩
  exact numeral.doubleValue_ne (Numeral.doubleValue_of_value hvalue)

end PathQuery
