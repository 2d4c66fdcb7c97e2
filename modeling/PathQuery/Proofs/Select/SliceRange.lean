import PathQuery.Proofs.Select.SlicePlaces

/-!
# The range of a slice

Python slices a sequence by `items[start:stop:stride]` in integers without limit.  A
negative bound counts from the end, a bound that lies outside is moved to the nearest
place that the direction allows, and an absent one stands for the end on its side.  The
places of the slice are the first bound with strides added to it, as many as lie before
the second bound.

The cursor of a slice clamps its bounds less strictly on the side that it moves away
from.  This module shows that it passes through the same places.
-/

namespace PathQuery.Slice

/-! ## Bounds and places -/

/-- The lowest place that a bound may have; backwards it is the one before the first
element. -/
def lowest (stride : Int) : Int :=
  if 0 < stride then 0 else -1

/-- The highest place that a bound may have; forwards it is the one behind the last
element. -/
def highest (count : Nat) (stride : Int) : Int :=
  if 0 < stride then count else count - 1

/-- The place that a bound stands for in a sequence of `count` elements. -/
def adjust (count : Nat) (stride bound : Int) : Int :=
  max (lowest stride) (min (highest count stride) (if bound < 0 then bound + count else bound))

/-- The slice of a sequence of `count` elements with the bounds that Python gives it. -/
def adjusted (count : Nat) (start stop : Option Int) (stride : Int) : Slice where
  next := (start.map (adjust count stride)).getD
    (if 0 < stride then lowest stride else highest count stride)
  stop := (stop.map (adjust count stride)).getD
    (if 0 < stride then highest count stride else lowest stride)
  stride := stride

/-- The number of places of a slice: the distance of its bounds in strides, rounded up. -/
def extent (slice : Slice) : Nat :=
  if 0 < slice.stride then
    ((slice.stop - slice.next + slice.stride - 1) / slice.stride).toNat
  else ((slice.next - slice.stop + -slice.stride - 1) / -slice.stride).toNat

/-- The places of a slice in the order in which they are visited. -/
def range (slice : Slice) : List Int :=
  (List.range slice.extent).map slice.place

/-! ## The places lie before the end -/

/-- A place is left if the next one is in front of the end. -/
theorem inRange_eq_true_iff {slice : Slice} :
    slice.inRange = true ↔
      if 0 < slice.stride then slice.next < slice.stop else slice.stop < slice.next := by
  unfold inRange
  split
  · exact decide_eq_true_iff
  · exact decide_eq_true_iff

section Range

variable {slice : Slice}

/-- The places of a slice are those that it covers. -/
theorem covers_place_iff (h : slice.stride ≠ 0) (strides : Nat) :
    slice.covers (slice.place strides) = true ↔ strides < slice.extent := by
  have hrounded : ∀ distance stride : Int, 0 < stride →
      ((strides : Int) < (distance + stride - 1) / stride ↔ strides * stride < distance) := by
    intro distance stride hstride
    rw [← Int.add_one_le_iff, Int.le_ediv_iff_mul_le hstride, Int.add_mul, Int.one_mul]
    omega
  unfold covers extent place
  by_cases hforward : 0 < slice.stride
  · rw [if_pos hforward, if_pos hforward, decide_eq_true_eq, Int.lt_toNat, hrounded _ _ hforward]
    omega
  · rw [if_neg hforward, if_neg hforward, decide_eq_true_eq, Int.lt_toNat,
      hrounded _ _ (by omega), Int.mul_neg]
    omega

theorem inRange_iff (h : slice.stride ≠ 0) : slice.inRange = true ↔ 0 < slice.extent := by
  rw [← covers_next, ← covers_place_iff h, place_zero]

/-- A step of the cursor takes one place off. -/
theorem extent_of_inRange (h : slice.stride ≠ 0) (hrange : slice.inRange = true) :
    slice.extent = slice.advance.extent + 1 := by
  have hplaces : ∀ strides, strides < slice.advance.extent ↔ strides + 1 < slice.extent := by
    intro strides
    rw [← covers_place_iff h, place_succ, ← covers_advance]
    have hadvanced : slice.advance.stride ≠ 0 := h
    exact (covers_place_iff hadvanced strides).symm
  have hfirst := (inRange_iff h).1 hrange
  have hlast := hplaces slice.advance.extent
  have hbefore := hplaces (slice.extent - 1)
  have hbehind := hplaces (slice.extent - 2)
  omega

theorem range_of_inRange (h : slice.stride ≠ 0) (hrange : slice.inRange = true) :
    slice.range = slice.next :: slice.advance.range := by
  rw [range, extent_of_inRange h hrange, List.range_succ_eq_map, List.map_cons, place_zero,
    List.map_map, range]
  congr 1
  exact List.map_congr_left fun strides _ => place_succ slice strides

theorem range_of_not_inRange (h : slice.stride ≠ 0) (hrange : slice.inRange = false) :
    slice.range = [] := by
  have hextent : ¬0 < slice.extent := by simp [← inRange_iff h, hrange]
  rw [range, Nat.eq_zero_of_not_pos hextent]
  rfl

/-- A slice that keeps to an array has no more places than the array. -/
theorem extent_le {count : Nat} (h : slice.stride ≠ 0) (hwithin : Within count slice) :
    slice.extent ≤ count := by
  refine Nat.le_of_not_lt fun hmore => ?_
  have hcovers := (covers_place_iff h count).2 hmore
  unfold Within at hwithin
  unfold covers place at hcovers
  by_cases hforward : 0 < slice.stride
  · rw [if_pos hforward] at hwithin
    rw [if_pos hforward, decide_eq_true_eq] at hcovers
    have hfar : (count : Int) * 1 ≤ count * slice.stride :=
      Int.mul_le_mul_of_nonneg_left (by omega) (by omega)
    omega
  · rw [if_neg hforward] at hwithin
    rw [if_neg hforward, decide_eq_true_eq] at hcovers
    have hfar : (count : Int) * slice.stride ≤ count * -1 :=
      Int.mul_le_mul_of_nonneg_left (by omega) (by omega)
    omega

/-- The cursor yields the elements at the places of the slice, each of which is there. -/
theorem map_some_elements {α : Type} {items : List α} (h : slice.stride ≠ 0)
    (hwithin : Within items.length slice) :
    ∀ rounds, slice.extent ≤ rounds →
      (elements items rounds slice).toList.map some = slice.range.map (element? items) := by
  intro rounds
  induction rounds generalizing slice with
  | zero =>
      intro hrounds
      rw [range, Nat.le_zero.1 hrounds]
      rfl
  | succ rounds ih =>
      intro hrounds
      rw [elements]
      by_cases hrange : slice.inRange = true
      · obtain ⟨item, hitem⟩ := exists_element_of_inRange hwithin hrange
        have hfewer := extent_of_inRange h hrange
        have hadvanced : slice.advance.stride ≠ 0 := h
        have hrest := ih hadvanced (within_advance hwithin) (by omega)
        rw [if_pos hrange, hitem, range_of_inRange h hrange, List.map_cons, hitem, ← hrest]
        rfl
      · rw [if_neg hrange, range_of_not_inRange h (by simpa using hrange)]
        rfl

end Range

/-! ## The cursor passes through the range -/

/-- The place of a bound counted from the beginning, wherever it lies. -/
def located (count : Nat) (absent : Int) (bound : Option Int) : Int :=
  (bound.map (fromBeginning count)).getD absent

section Bounds

variable {count : Nat} {start stop stride : Option Int}

/-- An absent bound within the limits is moved nowhere. -/
theorem getD_adjust {direction absent : Int} (hlow : lowest direction ≤ absent)
    (hhigh : absent ≤ highest count direction) (bound : Option Int) :
    (bound.map (adjust count direction)).getD absent =
      max (lowest direction) (min (highest count direction) (located count absent bound)) := by
  cases bound with
  | none =>
      rw [located, Option.map_none, Option.map_none, Option.getD_none]
      omega
  | some bound =>
      rw [located, Option.map_some, Option.map_some, Option.getD_some, Option.getD_some, adjust,
        fromBeginning, Int.add_comm]

theorem ofBounds_forward (h : 0 < stride.getD 1) :
    ofBounds count start stop stride =
      ⟨max 0 (min (located count 0 start) count),
        max (-1) (min (located count count stop) count), stride.getD 1⟩ := by
  simp only [ofBounds, if_pos h, located]

theorem ofBounds_backward (h : ¬0 < stride.getD 1) :
    ofBounds count start stop stride =
      ⟨min (located count (count - 1) start) (count - 1),
        max (-1) (min (located count (-1) stop) count), stride.getD 1⟩ := by
  simp only [ofBounds, if_neg h, located]

theorem adjusted_forward {direction : Int} (h : 0 < direction) :
    adjusted count start stop direction =
      ⟨max 0 (min count (located count 0 start)),
        max 0 (min count (located count count stop)), direction⟩ := by
  have hlow : lowest direction = 0 := if_pos h
  have hhigh : highest count direction = count := if_pos h
  rw [adjusted, if_pos h, if_pos h, getD_adjust (by omega) (by omega),
    getD_adjust (by omega) (by omega), hlow, hhigh]

theorem adjusted_backward {direction : Int} (h : ¬0 < direction) :
    adjusted count start stop direction =
      ⟨max (-1) (min (count - 1) (located count (count - 1) start)),
        max (-1) (min (count - 1) (located count (-1) stop)), direction⟩ := by
  have hlow : lowest direction = -1 := if_neg h
  have hhigh : highest count direction = count - 1 := if_neg h
  rw [adjusted, if_neg h, if_neg h, getD_adjust (by omega) (by omega),
    getD_adjust (by omega) (by omega), hlow, hhigh]

/-- Where a place is left, the bounds of the cursor are those of the range: the limits that
the cursor leaves out are beyond bounds between which there is no place. -/
theorem ofBounds_eq_adjusted (hrange : (ofBounds count start stop stride).inRange = true) :
    ofBounds count start stop stride = adjusted count start stop (stride.getD 1) := by
  by_cases h : 0 < stride.getD 1
  · rw [ofBounds_forward h] at hrange ⊢
    rw [inRange_eq_true_iff, if_pos h] at hrange
    rw [adjusted_forward h, Slice.mk.injEq]
    dsimp only at hrange
    omega
  · rw [ofBounds_backward h] at hrange ⊢
    rw [inRange_eq_true_iff, if_neg h] at hrange
    rw [adjusted_backward h, Slice.mk.injEq]
    dsimp only at hrange
    omega

/-- Where the range has a place, the cursor has one too. -/
theorem inRange_of_adjusted
    (hrange : (adjusted count start stop (stride.getD 1)).inRange = true) :
    (ofBounds count start stop stride).inRange = true := by
  by_cases h : 0 < stride.getD 1
  · rw [adjusted_forward h, inRange_eq_true_iff, if_pos h] at hrange
    rw [ofBounds_forward h, inRange_eq_true_iff, if_pos h]
    dsimp only at hrange ⊢
    omega
  · rw [adjusted_backward h, inRange_eq_true_iff, if_neg h] at hrange
    rw [ofBounds_backward h, inRange_eq_true_iff, if_neg h]
    dsimp only at hrange ⊢
    omega

/-- The places of the cursor are those of the range. -/
theorem range_ofBounds (h : stride.getD 1 ≠ 0) :
    (ofBounds count start stop stride).range =
      (adjusted count start stop (stride.getD 1)).range := by
  by_cases hrange : (ofBounds count start stop stride).inRange = true
  · rw [ofBounds_eq_adjusted hrange]
  · have hadjusted : ¬(adjusted count start stop (stride.getD 1)).inRange = true :=
      fun hplace => hrange (inRange_of_adjusted hplace)
    rw [range_of_not_inRange h (by simpa using hrange),
      range_of_not_inRange h (by simpa using hadjusted)]

end Bounds

end PathQuery.Slice
