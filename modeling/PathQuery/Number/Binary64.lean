import PathQuery.Power

/-!
# Double-precision numbers

A finite double-precision number is kept as its sign, its significand and its
shift: it denotes `± significand * 2 ^ shift` in units of `2 ^ (-1074)`, the
least positive double.  Every operation computes exactly on natural numbers and
rounds once, to the nearest representable number and to an even significand
between two of them.
-/

namespace PathQuery

/-- The pairs of significand and shift that represent a double in exactly one
way: 53 bits, all of them used unless the shift is zero. -/
def Binary64.Canonical (significand shift : Nat) : Prop :=
  significand < 2 ^ 53 ∧ shift ≤ 2045 ∧ (shift = 0 ∨ 2 ^ 52 ≤ significand)

instance (significand shift : Nat) : Decidable (Binary64.Canonical significand shift) := by
  unfold Binary64.Canonical
  infer_instance

/-- A finite double-precision number, `± significand * 2 ^ (shift - 1074)`. -/
structure Binary64 where
  negative : Bool
  significand : Nat
  shift : Nat
  canonical : Binary64.Canonical significand shift
deriving DecidableEq

namespace Binary64

/-- Positive zero. -/
def zero : Binary64 := ⟨false, 0, 0, by decide⟩

/-- The distance from zero in units of `2 ^ (-1074)`. -/
def magnitude (x : Binary64) : Nat :=
  x.significand * 2 ^ x.shift

/-- The exact value in units of `2 ^ (-1074)`. -/
def units (x : Binary64) : Int :=
  if x.negative then -(x.magnitude : Int) else x.magnitude

/-- The number with its sign turned. -/
def neg (x : Binary64) : Binary64 :=
  { x with negative := !x.negative }

/-- Compares by value, so that the two zeros are equal. -/
def compare (x y : Binary64) : Ordering :=
  Ord.compare x.units y.units

/-- The quotient `num / den` as the nearest integer, an even one if two are
equally near. -/
def roundQuotient (num den : Nat) : Nat :=
  let quotient := num / den
  let rest := num % den
  if 2 * rest < den ∨ (2 * rest = den ∧ quotient % 2 = 0) then quotient else quotient + 1

/-- The significand and the shift nearest to `num / den` units; the shift may be
too large for a double. -/
def roundUnits (num den : Nat) : Nat × Nat :=
  let shift := (num / den).log2 - 52
  let significand := roundQuotient num (den * 2 ^ shift)
  if significand = 2 ^ 53 then (2 ^ 52, shift + 1) else (significand, shift)

/-- The double nearest to `num / den` units, or nothing beyond the largest one. -/
def nearest (num den : Nat) : Option Binary64 :=
  let rounded := roundUnits num den
  if h : Canonical rounded.1 rounded.2 then some ⟨false, rounded.1, rounded.2, h⟩ else none

/-- The least positive double is two to the negative of this power. -/
def precision : Nat := 1074

/-- One, in units of `2 ^ (-1074)`. -/
def unitsOfOne : Nat := 2 ^ precision

/-- The double nearest to the product of two magnitudes. -/
def mul (x y : Binary64) : Option Binary64 :=
  nearest (x.magnitude * y.magnitude) unitsOfOne

/-- The double nearest to the quotient of two magnitudes. -/
def div (x y : Binary64) : Option Binary64 :=
  nearest (x.magnitude * unitsOfOne) y.magnitude

theorem roundQuotient_le {num den bound : Nat} (hden : 0 < den) (h : num ≤ bound * den) :
    roundQuotient num den ≤ bound := by
  have hdiv : num / den ≤ bound := Nat.div_le_of_le_mul (by rwa [Nat.mul_comm] at h)
  have hsplit := Nat.div_add_mod num den
  unfold roundQuotient
  simp only
  split
  · exact hdiv
  · rename_i hrest
    rcases Nat.lt_or_eq_of_le hdiv with hlt | heq
    · omega
    · exfalso
      apply hrest
      left
      rw [heq, Nat.mul_comm] at hsplit
      omega

theorem le_roundQuotient {num den bound : Nat} (hden : 0 < den) (h : bound * den ≤ num) :
    bound ≤ roundQuotient num den := by
  have hdiv : bound ≤ num / den := (Nat.le_div_iff_mul_le hden).2 h
  unfold roundQuotient
  simp only
  split <;> omega

/-- A quotient is rounded with 53 bits at most, or up to the next power of two. -/
theorem roundQuotient_le_two_pow {num den : Nat} (hden : 0 < den) :
    roundQuotient num (den * 2 ^ ((num / den).log2 - 52)) ≤ 2 ^ 53 := by
  have hlog : num / den < 2 ^ ((num / den).log2 + 1) := Nat.lt_log2_self
  have hupper : num < 2 ^ ((num / den).log2 + 1) * den := (Nat.div_lt_iff_lt_mul hden).1 hlog
  apply roundQuotient_le (Nat.mul_pos hden (Nat.two_pow_pos _))
  calc
    num ≤ 2 ^ ((num / den).log2 + 1) * den := Nat.le_of_lt hupper
    _ ≤ 2 ^ (53 + ((num / den).log2 - 52)) * den :=
      Nat.mul_le_mul_right _ (Nat.pow_le_pow_right (by decide) (by omega))
    _ = 2 ^ 53 * (den * 2 ^ ((num / den).log2 - 52)) := by
      rw [Nat.pow_add, Nat.mul_assoc, Nat.mul_comm den]

/-- A quotient that is rounded with a shift has no fewer than 53 bits. -/
theorem two_pow_le_roundQuotient {num den : Nat} (hden : 0 < den)
    (hshift : 0 < (num / den).log2 - 52) :
    2 ^ 52 ≤ roundQuotient num (den * 2 ^ ((num / den).log2 - 52)) := by
  apply le_roundQuotient (Nat.mul_pos hden (Nat.two_pow_pos _))
  have hne : num / den ≠ 0 := by
    intro hzero
    rw [hzero] at hshift
    simp at hshift
  have hself : 2 ^ (num / den).log2 ≤ num / den := Nat.log2_self_le hne
  have hlower : 2 ^ (num / den).log2 * den ≤ num := (Nat.le_div_iff_mul_le hden).1 hself
  calc
    2 ^ 52 * (den * 2 ^ ((num / den).log2 - 52))
        = 2 ^ (52 + ((num / den).log2 - 52)) * den := by
      rw [Nat.pow_add, Nat.mul_assoc, Nat.mul_comm den]
    _ = 2 ^ (num / den).log2 * den := by congr 2; omega
    _ ≤ num := hlower

/-- Rounding keeps to 53 bits, and uses all of them where the shift is not zero. -/
theorem roundUnits_canonical {num den : Nat} (hden : 0 < den)
    (hshift : (roundUnits num den).2 ≤ 2045) :
    Canonical (roundUnits num den).1 (roundUnits num den).2 := by
  have hle := @roundQuotient_le_two_pow num den hden
  have hge := @two_pow_le_roundQuotient num den hden
  unfold roundUnits at hshift ⊢
  simp only at hshift ⊢
  split
  · rename_i hfull
    rw [if_pos hfull] at hshift
    exact ⟨(by decide : 2 ^ 52 < 2 ^ 53), hshift, Or.inr (Nat.le_refl _)⟩
  · rename_i hfull
    rw [if_neg hfull] at hshift
    exact ⟨by omega, hshift, by omega⟩

theorem log2_mul_two_pow_lt {n k : Nat} (j : Nat) (hn : n < 2 ^ k) (hk : 0 < k) :
    (n * 2 ^ j).log2 < k + j := by
  rcases Nat.eq_zero_or_pos n with hzero | hpos
  · subst hzero
    rw [Nat.zero_mul, Nat.log2_zero]
    omega
  · have hne : n * 2 ^ j ≠ 0 := Nat.ne_of_gt (Nat.mul_pos hpos (Nat.two_pow_pos j))
    rw [Nat.log2_lt hne, Nat.pow_add]
    exact Nat.mul_lt_mul_of_pos_right hn (Nat.two_pow_pos j)

theorem roundUnits_shift_le {n : Nat} (hn : n < 2 ^ 64) :
    (roundUnits (n * unitsOfOne) 1).2 ≤ 2045 := by
  have hlog : (n * unitsOfOne).log2 < 64 + precision :=
    log2_mul_two_pow_lt precision hn (by decide)
  have hprecision : precision = 1074 := rfl
  unfold roundUnits
  simp only [Nat.div_one]
  split <;> simp only <;> omega

/-- The double nearest to a natural number of at most 64 bits. -/
def ofNat (n : Nat) (h : n < 2 ^ 64) : Binary64 :=
  ⟨false, (roundUnits (n * unitsOfOne) 1).1, (roundUnits (n * unitsOfOne) 1).2,
    roundUnits_canonical (by decide) (roundUnits_shift_le h)⟩

/-- The double nearest to an integer of at most 64 bits. -/
def ofInt (i : Int) (h : i.natAbs < 2 ^ 64) : Binary64 :=
  { ofNat i.natAbs h with negative := i < 0 }

end Binary64

end PathQuery
