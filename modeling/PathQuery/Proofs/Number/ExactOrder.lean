import Mathlib.Algebra.Order.Field.Rat
import Mathlib.Data.Rat.Cast.Order
import Mathlib.Order.Compare
import PathQuery.Proofs.Number.Rounding

/-!
# The order of numbers and their exact values

Every number denotes a rational.  The order of two numbers is the one of their values,
with one exception: an integer that is no double is taken for the double nearest to it when
it meets a double.  Such a pair is *merged*, which happens only beyond `2 ^ 53`.
-/

namespace PathQuery

namespace Binary64

variable {x y : Binary64} {value : Int}

/-- A double has one shift and one significand, whatever its sign. -/
theorem significand_eq (h : x.units = y.units) : x.significand = y.significand := by
  have hmagnitude : x.magnitude = y.magnitude := by
    have hx := x.units_eq_or
    have hy := y.units_eq_or
    omega
  have hshift : ∀ {u v : Binary64}, u.magnitude = v.magnitude → ¬ u.shift < v.shift := by
    intro u v heq hlt
    have hsmall := magnitude_lt hlt
    have hlong : 2 ^ 52 ≤ v.significand := by
      rcases v.canonical.2.2 with hzero | hlong
      · omega
      · exact hlong
    have hlarge : 2 ^ 52 * 2 ^ v.shift ≤ v.magnitude := Nat.mul_le_mul_right _ hlong
    omega
  have hsame : x.shift = y.shift := by
    have hxy := hshift hmagnitude
    have hyx := hshift hmagnitude.symm
    omega
  rw [magnitude, magnitude, hsame] at hmagnitude
  exact Nat.eq_of_mul_eq_mul_right (Nat.two_pow_pos _) hmagnitude

/-- If a double is nearest to a value, so is every double of the same value. -/
theorem IsNearest.congr (h : x.IsNearest value) (heq : x.units = y.units) :
    y.IsNearest value where
  nearest z := heq ▸ h.nearest z
  even z htie hne := by
    rw [← heq] at htie hne
    rw [← significand_eq heq]
    exact h.even z htie hne

theorem isNearest_iff {i : Int} (h : i.natAbs < 2 ^ 64) :
    x.IsNearest (i * unitsOfOne) ↔ x.units = (ofInt i h).units :=
  ⟨fun hx => hx.units_eq h, fun heq => (ofInt_isNearest h).congr heq.symm⟩

/-- A double that a value does not exceed is not below the double nearest to the value. -/
theorem IsNearest.units_le (h : x.IsNearest value) (hle : value ≤ y.units) :
    x.units ≤ y.units := by
  have hnear := h.nearest y
  unfold gap at hnear
  omega

/-- A double that does not exceed a value is not above the double nearest to the value. -/
theorem IsNearest.le_units (h : x.IsNearest value) (hle : y.units ≤ value) :
    y.units ≤ x.units := by
  have hnear := h.nearest y
  unfold gap at hnear
  omega

end Binary64

namespace Number

open Binary64 (unitsOfOne)

/-- The rational that a number denotes. -/
def exact : Number → ℚ
  | .int value _ => value
  | .double value => value.units / unitsOfOne

/-- The rational that a number denotes, in units of `2 ^ (-1074)`. -/
def units : Number → Int
  | .int value _ => value * unitsOfOne
  | .double value => value.units

/-- If two numbers of different values are taken for one: an integer that is no double, and
the double nearest to it. -/
def Merged : Number → Number → Prop
  | .int i _, .double x => x.IsNearest (i * unitsOfOne) ∧ x.units ≠ i * unitsOfOne
  | .double x, .int i _ => x.IsNearest (i * unitsOfOne) ∧ x.units ≠ i * unitsOfOne
  | .int _ _, .int _ _ => False
  | .double _, .double _ => False

/-! ## Values in units -/

variable {a b c : Number}

theorem unitsOfOne_pos : (0 : ℚ) < unitsOfOne :=
  Nat.cast_pos.2 (Nat.two_pow_pos _)

theorem exact_eq_div (a : Number) : a.exact = a.units / unitsOfOne := by
  cases a with
  | int i hi => rw [exact, units, Int.cast_mul, Int.cast_natCast,
      mul_div_cancel_right₀ _ (ne_of_gt unitsOfOne_pos)]
  | double x => rfl

theorem exact_lt : a.exact < b.exact ↔ a.units < b.units := by
  rw [exact_eq_div, exact_eq_div, div_lt_div_iff_of_pos_right unitsOfOne_pos, Int.cast_lt]

theorem exact_inj : a.exact = b.exact ↔ a.units = b.units := by
  rw [exact_eq_div, exact_eq_div, div_left_inj' (ne_of_gt unitsOfOne_pos), Int.cast_inj]

/-- Values are ordered as their units are. -/
theorem cmp_exact (a b : Number) : cmp a.exact b.exact = compare a.units b.units := by
  rcases Int.lt_trichotomy a.units b.units with hlt | heq | hgt
  · rw [(cmp_eq_lt_iff _ _).2 (exact_lt.2 hlt), compare_lt_iff_lt.2 hlt]
  · rw [(cmp_eq_eq_iff _ _).2 (exact_inj.2 heq), compare_eq_iff_eq.2 heq]
  · rw [(cmp_eq_gt_iff _ _).2 (exact_lt.2 hgt), compare_gt_iff_gt.2 hgt]

/-! ## The double of a number -/

theorem toDouble_int {i : Int} (hi : -2 ^ 63 ≤ i ∧ i < 2 ^ 64) :
    ∃ h : i.natAbs < 2 ^ 64, toDouble (.int i hi) = .ofInt i h :=
  ⟨_, rfl⟩

/-- Rounding an integer leaves it on its side of every double. -/
theorem toDouble_side {i : Int} (hi : -2 ^ 63 ≤ i ∧ i < 2 ^ 64) (x : Binary64) :
    (i * unitsOfOne ≤ x.units → (toDouble (.int i hi)).units ≤ x.units) ∧
      (x.units ≤ i * unitsOfOne → x.units ≤ (toDouble (.int i hi)).units) ∧
      (x.IsNearest (i * unitsOfOne) ↔ x.units = (toDouble (.int i hi)).units) := by
  obtain ⟨h, heq⟩ := toDouble_int hi
  rw [heq]
  have hnear := Binary64.ofInt_isNearest h
  exact ⟨hnear.units_le, hnear.le_units, Binary64.isNearest_iff h⟩

theorem order_int_double {i : Int} (hi : -2 ^ 63 ≤ i ∧ i < 2 ^ 64) (x : Binary64) :
    order (.int i hi) (.double x) = compare (toDouble (.int i hi)).units x.units := rfl

/-! ## The order of two numbers -/

/-- A law of pairs that holds in both orders or in none is shown of two integers, of an
integer and a double, and of two doubles. -/
theorem pair_cases {P : Number → Number → Prop} (comm : ∀ {a b}, P a b → P b a)
    (ints : ∀ i hi j hj, P (.int i hi) (.int j hj))
    (mixed : ∀ i hi x, P (.int i hi) (.double x))
    (doubles : ∀ x y, P (.double x) (.double y)) (a b : Number) : P a b := by
  cases a with
  | int i hi =>
    cases b with
    | int j hj => exact ints i hi j hj
    | double y => exact mixed i hi y
  | double x =>
    cases b with
    | int j hj => exact comm (mixed j hj x)
    | double y => exact doubles x y

/-- Two numbers in the other order are ordered the other way. -/
theorem order_swap (a b : Number) : (a.order b).swap = b.order a := by
  refine pair_cases (P := fun a b => (a.order b).swap = b.order a) ?_ ?_ ?_ ?_ a b
  · intro a b h
    rw [← h, Ordering.swap_swap]
  · intro i hi j hj
    exact Int.compare_swap i j
  · intro i hi x
    exact Int.compare_swap _ x.units
  · intro x y
    exact Int.compare_swap x.units y.units

theorem order_beq_eq_comm (a b : Number) : (a.order b == .eq) = (b.order a == .eq) := by
  rw [← order_swap b a]
  cases b.order a <;> rfl

theorem merged_comm : a.Merged b ↔ b.Merged a := by
  cases a <;> cases b <;> exact Iff.rfl

/-- Two numbers that are merged are equal, and their values are not. -/
theorem order_eq_of_merged (h : a.Merged b) : a.order b = .eq ∧ a.exact ≠ b.exact := by
  refine pair_cases (P := fun a b => a.Merged b → a.order b = .eq ∧ a.exact ≠ b.exact)
    ?_ ?_ ?_ ?_ a b h
  · intro a b hmerged hba
    obtain ⟨horder, hne⟩ := hmerged (merged_comm.1 hba)
    rw [← order_swap, horder]
    exact ⟨rfl, hne.symm⟩
  · intro i hi j hj hmerged
    exact hmerged.elim
  · rintro i hi x ⟨hnear, hne⟩
    obtain ⟨-, -, hiff⟩ := toDouble_side hi x
    refine ⟨compare_eq_iff_eq.2 (hiff.1 hnear).symm, fun hexact => hne ?_⟩
    exact (exact_inj.1 hexact).symm
  · intro x y hmerged
    exact hmerged.elim

/-- Numbers that are not merged are ordered by their exact values. -/
theorem order_of_not_merged (h : ¬ a.Merged b) : a.order b = cmp a.exact b.exact := by
  refine pair_cases (P := fun a b => ¬ a.Merged b → a.order b = cmp a.exact b.exact)
    ?_ ?_ ?_ ?_ a b h
  · intro a b hmerged hba
    rw [← order_swap, hmerged (mt merged_comm.1 hba), cmp_swap]
  · intro i hi j hj _
    rw [exact, exact, (Int.cast_strictMono (R := ℚ)).cmp_map_eq, cmp_eq_compare]
    rfl
  · intro i hi x hmerged
    obtain ⟨hbelow, habove, hiff⟩ := toDouble_side hi x
    have hapart : i * unitsOfOne ≠ x.units → (toDouble (.int i hi)).units ≠ x.units :=
      fun hne hsame => hmerged ⟨hiff.2 hsame.symm, hne.symm⟩
    rw [cmp_exact, order_int_double]
    change _ = compare (i * unitsOfOne : Int) x.units
    rcases Int.lt_trichotomy (i * unitsOfOne) x.units with hlt | heq | hgt
    · rw [compare_lt_iff_lt.2 hlt, compare_lt_iff_lt]
      exact lt_of_le_of_ne (hbelow (Int.le_of_lt hlt)) (hapart (Int.ne_of_lt hlt))
    · rw [compare_eq_iff_eq.2 heq, compare_eq_iff_eq]
      exact Int.le_antisymm (hbelow (Int.le_of_eq heq)) (habove (Int.le_of_eq heq.symm))
    · rw [compare_gt_iff_gt.2 hgt, compare_gt_iff_gt]
      exact lt_of_le_of_ne (habove (Int.le_of_lt hgt)) (hapart (Int.ne_of_gt hgt)).symm
  · intro x y _
    exact (cmp_exact (.double x) (.double y)).symm

/-- Only an integer beyond `2 ^ 53` is merged with a double. -/
theorem Merged.exists_int (h : a.Merged b) :
    ∃ i hi, (a = .int i hi ∨ b = .int i hi) ∧ 2 ^ 53 < i.natAbs := by
  refine pair_cases (P := fun a b => a.Merged b →
    ∃ i hi, (a = .int i hi ∨ b = .int i hi) ∧ 2 ^ 53 < i.natAbs) ?_ ?_ ?_ ?_ a b h
  · intro a b hmerged hba
    obtain ⟨i, hi, heq, hlarge⟩ := hmerged (merged_comm.1 hba)
    exact ⟨i, hi, heq.symm, hlarge⟩
  · intro i hi j hj hmerged
    exact hmerged.elim
  · rintro i hi x ⟨hnear, hne⟩
    refine ⟨i, hi, Or.inl rfl, ?_⟩
    by_contra hsmall
    have hbound : i.natAbs < 2 ^ 64 := by omega
    refine hne ?_
    rw [hnear.units_eq hbound, Binary64.units_ofInt hbound (Nat.le_of_not_lt hsmall)]
  · intro x y hmerged
    exact hmerged.elim

/-! ## Transitivity -/

theorem int_eq_of_order {i j : Int} {hi : -2 ^ 63 ≤ i ∧ i < 2 ^ 64}
    {hj : -2 ^ 63 ≤ j ∧ j < 2 ^ 64} (h : order (.int i hi) (.int j hj) = .eq) : i = j :=
  compare_eq_iff_eq.1 h

/-- Equal numbers have one double. -/
theorem toDouble_units_eq (h : a.order b = .eq) : a.toDouble.units = b.toDouble.units := by
  refine pair_cases (P := fun a b => a.order b = .eq → a.toDouble.units = b.toDouble.units)
    ?_ ?_ ?_ ?_ a b h
  · intro a b hunits hba
    rw [← order_swap, Ordering.swap_eq_eq] at hba
    exact (hunits hba).symm
  · intro i hi j hj horder
    obtain rfl := int_eq_of_order horder
    rfl
  · intro i hi x horder
    exact compare_eq_iff_eq.1 horder
  · intro x y horder
    exact compare_eq_iff_eq.1 horder

/-- Numbers of one double are equal, unless both are integers. -/
theorem order_eq_of_toDouble (h : a.toDouble.units = b.toDouble.units) :
    a.order b = .eq ∨ ∃ i hi j hj, a = .int i hi ∧ b = .int j hj := by
  cases a with
  | int i hi =>
    cases b with
    | int j hj => exact Or.inr ⟨i, hi, j, hj, rfl, rfl⟩
    | double y => exact Or.inl (compare_eq_iff_eq.2 h)
  | double x =>
    cases b with
    | int j hj => exact Or.inl (compare_eq_iff_eq.2 h)
    | double y => exact Or.inl (compare_eq_iff_eq.2 h)

/-- Two numbers that equal a third one are equal, unless they are integers and the third one
is a double. -/
theorem order_eq_trans (hab : a.order b = .eq) (hbc : b.order c = .eq) :
    a.order c = .eq ∨ ∃ i hi x j hj, a = .int i hi ∧ b = .double x ∧ c = .int j hj := by
  rcases order_eq_of_toDouble ((toDouble_units_eq hab).trans (toDouble_units_eq hbc)) with
    heq | ⟨i, hi, j, hj, rfl, rfl⟩
  · exact Or.inl heq
  · cases b with
    | int k hk =>
      obtain rfl := int_eq_of_order hab
      exact Or.inl hbc
    | double x => exact Or.inr ⟨i, hi, x, j, hj, rfl, rfl, rfl⟩

end Number

end PathQuery
