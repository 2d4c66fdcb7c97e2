import Mathlib.Algebra.Order.Ring.Nat
import PathQuery.Number.Basic

/-!
# Rounding to the nearest double

An integer that takes part in a comparison with a double is first rounded.  This module
tells what rounding does, by the values of the doubles alone: no double is nearer to the
integer than the one that it is rounded to, and where another one is as near, the
significand is even.  There is only one such value.
-/

namespace PathQuery.Binary64

/-- How far two integers are apart. -/
def gap (a b : Int) : Nat :=
  (a - b).natAbs

theorem gap_neg (a b : Int) : gap (-a) (-b) = gap a b := by
  unfold gap
  omega

/-- If a double is the one to which a value, in units of `2 ^ (-1074)`, is rounded: no double
is nearer to the value, and the significand is even where another one is as near. -/
structure IsNearest (x : Binary64) (value : Int) : Prop where
  nearest : ∀ y : Binary64, gap x.units value ≤ gap y.units value
  even : ∀ y : Binary64, gap y.units value = gap x.units value → y.units ≠ x.units →
    x.significand % 2 = 0

/-! ## Rounding a quotient -/

section Quotient

variable {num den : Nat}

/-- A quotient is rounded down up to its half, and up from there; a half goes to the even
neighbour. -/
theorem roundQuotient_cases (num den : Nat) :
    (roundQuotient num den = num / den ∧ 2 * (num % den) ≤ den ∧
        (2 * (num % den) = den → num / den % 2 = 0)) ∨
      (roundQuotient num den = num / den + 1 ∧ den ≤ 2 * (num % den) ∧
        (2 * (num % den) = den → num / den % 2 = 1)) := by
  unfold roundQuotient
  simp only
  split
  · left
    omega
  · right
    omega

/-- No multiple of the denominator is nearer than the rounded one. -/
theorem roundQuotient_nearest (hden : 0 < den) (k : Nat) :
    gap (roundQuotient num den * den : Nat) num ≤ gap (k * den : Nat) num := by
  have hrest := Nat.mod_lt num hden
  have hsplit := Nat.div_add_mod' num den
  have hnext : (num / den + 1) * den = num / den * den + den := Nat.succ_mul _ _
  have hside : k * den ≤ num / den * den ∨ (num / den + 1) * den ≤ k * den := by
    rcases Nat.lt_or_ge (num / den) k with hlt | hge
    · exact Or.inr (Nat.mul_le_mul_right den hlt)
    · exact Or.inl (Nat.mul_le_mul_right den hge)
  unfold gap
  rcases roundQuotient_cases num den with ⟨heq, hhalf, -⟩ | ⟨heq, hhalf, -⟩
  · rw [heq]
    omega
  · rw [heq]
    omega

/-- Another multiple that is as near is an odd one, and the rounded one is even. -/
theorem roundQuotient_tie (hden : 0 < den) {k : Nat} (hk : k ≠ roundQuotient num den)
    (htie : gap (k * den : Nat) num = gap (roundQuotient num den * den : Nat) num) :
    roundQuotient num den % 2 = 0 ∧ k % 2 = 1 := by
  have hrest := Nat.mod_lt num hden
  have hsplit := Nat.div_add_mod' num den
  have hnext : (num / den + 1) * den = num / den * den + den := Nat.succ_mul _ _
  have hside : k * den + den ≤ num / den * den ∨ k = num / den ∨ k = num / den + 1 ∨
      num / den * den + 2 * den ≤ k * den := by
    rcases Nat.lt_trichotomy k (num / den) with hlt | heq | hgt
    · left
      rw [← Nat.succ_mul]
      exact Nat.mul_le_mul_right den hlt
    · exact Or.inr (Or.inl heq)
    · right
      right
      rcases Nat.eq_or_lt_of_le hgt with heq | hlt
      · exact Or.inl heq.symm
      · right
        rw [← Nat.add_mul]
        exact Nat.mul_le_mul_right den hlt
  unfold gap at htie
  rcases roundQuotient_cases num den with ⟨heq, hhalf, heven⟩ | ⟨heq, hhalf, hodd⟩
  · rw [heq] at hk htie ⊢
    rcases hside with hfar | rfl | rfl | hfar <;> omega
  · rw [heq] at hk htie ⊢
    rcases hside with hfar | rfl | rfl | hfar <;> omega

end Quotient

/-! ## Rounding a natural number of units -/

/-- The shift with which a number of units is rounded. -/
def shiftOf (n : Nat) : Nat :=
  n.log2 - 52

/-- The significand with which a number of units is rounded; it may be one bit too long. -/
def significandOf (n : Nat) : Nat :=
  roundQuotient n (2 ^ shiftOf n)

section Units

variable {n : Nat} {x : Binary64}

theorem roundUnits_one (n : Nat) :
    roundUnits n 1 = if significandOf n = 2 ^ 53 then (2 ^ 52, shiftOf n + 1)
      else (significandOf n, shiftOf n) := by
  unfold roundUnits
  simp only [Nat.div_one, Nat.one_mul]
  rfl

/-- A significand that is one bit too long is halved without loss. -/
theorem roundUnits_value (n : Nat) :
    (roundUnits n 1).1 * 2 ^ (roundUnits n 1).2 = significandOf n * 2 ^ shiftOf n := by
  rw [roundUnits_one]
  split
  next hlong =>
    rw [hlong, Nat.pow_succ 2 (shiftOf n), Nat.mul_comm (2 ^ shiftOf n), ← Nat.mul_assoc]
    rfl
  next => rfl

theorem even_roundUnits (h : significandOf n % 2 = 0) : (roundUnits n 1).1 % 2 = 0 := by
  rw [roundUnits_one]
  split
  next =>
    change 2 ^ 52 % 2 = 0
    omega
  next => exact h

/-- With a shift, all bits of the significand are used. -/
theorem le_of_shiftOf_pos (h : 0 < shiftOf n) : 2 ^ 52 * 2 ^ shiftOf n ≤ n := by
  have hne : n ≠ 0 := by
    rintro rfl
    rw [shiftOf, Nat.log2_zero] at h
    omega
  have hshift : 52 + shiftOf n = n.log2 := by
    unfold shiftOf at h ⊢
    omega
  rw [← Nat.pow_add, hshift]
  exact Nat.log2_self_le hne

theorem units_eq_or (x : Binary64) : x.units = x.magnitude ∨ x.units = -(x.magnitude : Int) := by
  unfold units
  split
  · exact Or.inr rfl
  · exact Or.inl rfl

/-- With a shift that is too small, a double is below all that is rounded with a larger one. -/
theorem magnitude_lt {shift : Nat} (h : x.shift < shift) : x.magnitude < 2 ^ 52 * 2 ^ shift := by
  have hsignificand : x.significand < 2 ^ 53 := x.canonical.1
  calc
    x.magnitude < 2 ^ 53 * 2 ^ x.shift :=
      Nat.mul_lt_mul_of_pos_right hsignificand (Nat.two_pow_pos _)
    _ = 2 ^ 52 * 2 ^ (x.shift + 1) := by
      rw [← Nat.pow_add, ← Nat.pow_add, Nat.add_comm x.shift, ← Nat.add_assoc]
    _ ≤ 2 ^ 52 * 2 ^ shift :=
      Nat.mul_le_mul_left _ (Nat.pow_le_pow_right (by decide) h)

theorem magnitude_eq_mul {shift : Nat} (h : shift ≤ x.shift) :
    x.magnitude = x.significand * 2 ^ (x.shift - shift) * 2 ^ shift := by
  rw [magnitude, Nat.mul_assoc, ← Nat.pow_add, Nat.sub_add_cancel h]

/-- A double that is as near as the rounded value is not negative and has the shift of that
value, or a larger one. -/
theorem near_rounded (h : gap x.units n ≤ gap (significandOf n * 2 ^ shiftOf n : Nat) n) :
    x.units = x.magnitude ∧ shiftOf n ≤ x.shift := by
  have hpow : 0 < 2 ^ shiftOf n := Nat.two_pow_pos _
  have hzero := @roundQuotient_nearest n _ hpow 0
  have hleast := @roundQuotient_nearest n _ hpow (2 ^ 52)
  have hunits := x.units_eq_or
  rw [← significandOf] at hzero hleast
  unfold gap at h hzero hleast
  constructor
  · omega
  · by_contra hshift
    have hlt := magnitude_lt (Nat.lt_of_not_le hshift)
    have hle := @le_of_shiftOf_pos n (by omega)
    omega

/-- No double is nearer to a number of units than the rounded value. -/
theorem rounded_nearest (n : Nat) (x : Binary64) :
    gap (significandOf n * 2 ^ shiftOf n : Nat) n ≤ gap x.units n := by
  by_contra hnear
  obtain ⟨hunits, hshift⟩ := near_rounded (Nat.le_of_lt (Nat.lt_of_not_le hnear))
  rw [hunits, magnitude_eq_mul hshift] at hnear
  exact hnear (roundQuotient_nearest (Nat.two_pow_pos _) _)

/-- Of two values that are equally near, the rounded one has an even significand and the
other one an odd one, for an odd multiple of the power is its own significand. -/
theorem rounded_tie (htie : gap x.units n = gap (significandOf n * 2 ^ shiftOf n : Nat) n)
    (hne : x.units ≠ (significandOf n * 2 ^ shiftOf n : Nat)) :
    significandOf n % 2 = 0 ∧ x.significand % 2 = 1 := by
  obtain ⟨hunits, hshift⟩ := near_rounded (Nat.le_of_eq htie)
  rw [hunits, magnitude_eq_mul hshift] at htie hne
  obtain ⟨heven, hodd⟩ := roundQuotient_tie (Nat.two_pow_pos (shiftOf n))
    (fun hsame => hne (by rw [hsame, significandOf])) htie
  refine ⟨heven, ?_⟩
  by_contra hdouble
  rw [Nat.mul_mod, show x.significand % 2 = 0 by omega, Nat.zero_mul, Nat.zero_mod] at hodd
  cases hodd

/-- Where the shift drops only zeros, nothing is rounded. -/
theorem rounded_of_dvd (h : 2 ^ shiftOf n ∣ n) : significandOf n * 2 ^ shiftOf n = n := by
  obtain ⟨k, hk⟩ := h
  have hnear := @roundQuotient_nearest n _ (Nat.two_pow_pos (shiftOf n)) k
  rw [← significandOf, Nat.mul_comm k, ← hk] at hnear
  unfold gap at hnear
  omega

end Units

/-! ## Rounding an integer -/

@[simp] theorem units_neg (x : Binary64) : x.neg.units = -x.units := by
  cases hsign : x.negative <;> simp [units, neg, magnitude, hsign]

theorem IsNearest.neg {x : Binary64} {value : Int} (h : x.IsNearest value) :
    x.neg.IsNearest (-value) where
  nearest y := by
    have hy := h.nearest y.neg
    rwa [units_neg, ← gap_neg, ← gap_neg (-y.units), Int.neg_neg, ← units_neg] at hy
  even y htie hne := by
    have hy := h.even y.neg
    rw [units_neg, ← gap_neg (-y.units), Int.neg_neg, ← gap_neg x.units, ← units_neg] at hy
    refine hy htie ?_
    rw [units_neg] at hne
    omega

/-- The double with a significand and a shift.  Stated of a variable pair, its parts are told
without computing the rounding. -/
def ofParts (parts : Nat × Nat) (h : Canonical parts.1 parts.2) : Binary64 :=
  ⟨false, parts.1, parts.2, h⟩

theorem units_ofParts (parts : Nat × Nat) (h : Canonical parts.1 parts.2) :
    (ofParts parts h).units = (parts.1 * 2 ^ parts.2 : Nat) := by
  simp [ofParts, units, magnitude]

theorem significand_ofParts (parts : Nat × Nat) (h : Canonical parts.1 parts.2) :
    (ofParts parts h).significand = parts.1 := rfl

theorem ofNat_eq {n : Nat} (h : n < 2 ^ 64) :
    ∃ hcanonical, ofNat n h = ofParts (roundUnits (n * unitsOfOne) 1) hcanonical :=
  ⟨_, rfl⟩

theorem units_ofNat {n : Nat} (h : n < 2 ^ 64) :
    (ofNat n h).units =
      (significandOf (n * unitsOfOne) * 2 ^ shiftOf (n * unitsOfOne) : Nat) := by
  obtain ⟨hcanonical, heq⟩ := ofNat_eq h
  rw [heq, units_ofParts, roundUnits_value]

/-- A natural number of at most 64 bits is rounded to the nearest double. -/
theorem ofNat_isNearest {n : Nat} (h : n < 2 ^ 64) :
    (ofNat n h).IsNearest (n * unitsOfOne : Nat) := by
  have hunits := units_ofNat h
  constructor
  · intro y
    rw [hunits]
    exact rounded_nearest _ y
  · intro y htie hne
    rw [hunits] at htie hne
    obtain ⟨hcanonical, heq⟩ := ofNat_eq h
    rw [heq, significand_ofParts]
    exact even_roundUnits (rounded_tie htie hne).1

/-- Only one value is nearest to a natural number. -/
theorem IsNearest.units_eq_ofNat {n : Nat} (h : n < 2 ^ 64) {x : Binary64}
    (hx : x.IsNearest (n * unitsOfOne : Nat)) : x.units = (ofNat n h).units := by
  by_contra hne
  have htie : gap x.units (n * unitsOfOne : Nat) =
      gap (ofNat n h).units (n * unitsOfOne : Nat) :=
    Nat.le_antisymm (hx.nearest _) ((ofNat_isNearest h).nearest _)
  have heven := hx.even _ htie.symm (Ne.symm hne)
  rw [units_ofNat h] at htie hne
  have hodd := (rounded_tie htie hne).2
  omega

theorem withSign_eq (x : Binary64) (hx : x.negative = false) (negative : Bool) :
    ({ x with negative := negative } : Binary64) = if negative then x.neg else x := by
  obtain ⟨sign, significand, shift, canonical⟩ := x
  obtain rfl : sign = false := hx
  cases negative with
  | false => rfl
  | true => rfl

theorem ofInt_eq {i : Int} (h : i.natAbs < 2 ^ 64) :
    ofInt i h = if i < 0 then (ofNat i.natAbs h).neg else ofNat i.natAbs h := by
  have hsign := withSign_eq (ofNat i.natAbs h) rfl (decide (i < 0))
  simp only [decide_eq_true_eq] at hsign
  exact hsign

theorem mul_units_of_nonneg {i : Int} (hi : 0 ≤ i) :
    i * (unitsOfOne : Int) = (i.natAbs * unitsOfOne : Nat) := by
  rw [Int.natCast_mul, Int.natAbs_of_nonneg hi]

theorem neg_mul_units_of_neg {i : Int} (hi : i < 0) :
    -(i * (unitsOfOne : Int)) = (i.natAbs * unitsOfOne : Nat) := by
  rw [Int.natCast_mul, Int.ofNat_natAbs_of_nonpos (Int.le_of_lt hi), Int.neg_mul]

/-- An integer of at most 64 bits is rounded to the nearest double. -/
theorem ofInt_isNearest {i : Int} (h : i.natAbs < 2 ^ 64) :
    (ofInt i h).IsNearest (i * unitsOfOne) := by
  have hnat := ofNat_isNearest h
  rcases Int.lt_or_le i 0 with hi | hi
  · have hneg := hnat.neg
    rw [← neg_mul_units_of_neg hi, Int.neg_neg] at hneg
    rwa [ofInt_eq h, if_pos hi]
  · rw [← mul_units_of_nonneg hi] at hnat
    rwa [ofInt_eq h, if_neg (Int.not_lt.2 hi)]

/-- Only one value is nearest to an integer. -/
theorem IsNearest.units_eq {i : Int} (h : i.natAbs < 2 ^ 64) {x : Binary64}
    (hx : x.IsNearest (i * unitsOfOne)) : x.units = (ofInt i h).units := by
  rcases Int.lt_or_le i 0 with hi | hi
  · have hneg := hx.neg
    rw [neg_mul_units_of_neg hi] at hneg
    have hunits := hneg.units_eq_ofNat h
    rw [units_neg] at hunits
    rw [ofInt_eq h, if_pos hi, units_neg, ← hunits, Int.neg_neg]
  · rw [mul_units_of_nonneg hi] at hx
    rw [ofInt_eq h, if_neg (Int.not_lt.2 hi)]
    exact hx.units_eq_ofNat h

/-! ## Integers that are doubles -/

/-- The shift of a number of at most 53 bits only drops zeros. -/
theorem two_pow_shiftOf_dvd {n : Nat} (hn : n ≤ 2 ^ 53) :
    2 ^ shiftOf (n * unitsOfOne) ∣ n * unitsOfOne := by
  rcases Nat.eq_or_lt_of_le hn with rfl | hlt
  · rw [unitsOfOne, ← Nat.pow_add, shiftOf, Nat.log2_two_pow]
    exact Nat.pow_dvd_pow 2 (Nat.sub_le _ _)
  · have hlog := log2_mul_two_pow_lt precision hlt (by decide)
    rw [← unitsOfOne] at hlog
    refine Nat.dvd_trans (Nat.pow_dvd_pow 2 ?_) (Nat.dvd_mul_left unitsOfOne n)
    unfold shiftOf
    omega

/-- An integer of at most 53 bits is rounded to itself. -/
theorem units_ofInt {i : Int} (h : i.natAbs < 2 ^ 64) (hi : i.natAbs ≤ 2 ^ 53) :
    (ofInt i h).units = i * unitsOfOne := by
  have hnat : (ofNat i.natAbs h).units = (i.natAbs * unitsOfOne : Nat) := by
    rw [units_ofNat, rounded_of_dvd (two_pow_shiftOf_dvd hi)]
  rw [ofInt_eq h]
  split
  next hneg => rw [units_neg, hnat, ← neg_mul_units_of_neg hneg, Int.neg_neg]
  next hnonneg => rw [hnat, ← mul_units_of_nonneg (Int.not_lt.1 hnonneg)]

end PathQuery.Binary64
