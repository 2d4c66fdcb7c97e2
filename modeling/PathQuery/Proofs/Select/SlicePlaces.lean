import PathQuery.Select.Slice

/-!
# The places of a slice

A slice is walked by a cursor, one stride at a time.  The cursor never leaves the
array before it has left the slice, so the walk yields exactly the elements at the
places of an arithmetic progression, up to the first place that is not covered.
-/

namespace PathQuery.Slice

/-- The place reached after some strides. -/
def place (slice : Slice) (strides : Nat) : Int :=
  slice.next + strides * slice.stride

/-- If a place lies before the end of the slice. -/
def covers (slice : Slice) (place : Int) : Bool :=
  if 0 < slice.stride then place < slice.stop else slice.stop < place

/-- The elements at the places of a slice, which ends at the first place that it
does not cover. -/
def picked {α : Type} (items : List α) (slice : Slice) : List α :=
  (((List.range items.length).map slice.place).takeWhile slice.covers).filterMap
    (element? items)

/-- The next place and the end of a slice keep to an array of `count` elements, on
the side towards which the slice moves away from the other. -/
def Within (count : Nat) (slice : Slice) : Prop :=
  if 0 < slice.stride then 0 ≤ slice.next ∧ slice.stop ≤ count
  else slice.next < count ∧ -1 ≤ slice.stop

theorem place_zero (slice : Slice) : slice.place 0 = slice.next := by
  simp [place]

theorem place_succ (slice : Slice) (strides : Nat) :
    slice.place (strides + 1) = slice.advance.place strides := by
  simp only [place, advance, Int.natCast_add, Int.natCast_one, Int.add_mul, Int.one_mul]
  omega

theorem covers_advance (slice : Slice) : slice.advance.covers = slice.covers := rfl

theorem covers_next (slice : Slice) : slice.covers slice.next = slice.inRange := by
  unfold covers inRange
  split <;> rfl

/-- Clamping the bounds makes a slice keep to the array. -/
theorem within_ofBounds (count : Nat) (start stop stride : Option Int) :
    Within count (ofBounds count start stop stride) := by
  simp only [Within, ofBounds]
  split
  · constructor <;> omega
  · constructor <;> omega

theorem within_advance {count : Nat} {slice : Slice} (h : Within count slice) :
    Within count slice.advance := by
  have hstride : slice.advance.stride = slice.stride := rfl
  have hnext : slice.advance.next = slice.next + slice.stride := rfl
  have hstop : slice.advance.stop = slice.stop := rfl
  unfold Within at h ⊢
  rw [hstride, hnext, hstop]
  by_cases hforward : 0 < slice.stride
  · rw [if_pos hforward] at h ⊢
    exact ⟨by omega, h.2⟩
  · rw [if_neg hforward] at h ⊢
    exact ⟨by omega, h.2⟩

/-- There is an element at the next place of a slice that keeps to the array. -/
theorem exists_element_of_inRange {α : Type} {items : List α} {slice : Slice}
    (h : Within items.length slice) (hrange : slice.inRange = true) :
    ∃ item, element? items slice.next = some item := by
  have hbounds : 0 ≤ slice.next ∧ slice.next < items.length := by
    unfold Within at h
    unfold inRange at hrange
    split at h
    · rename_i hforward
      rw [if_pos hforward, decide_eq_true_eq] at hrange
      omega
    · rename_i hforward
      rw [if_neg hforward, decide_eq_true_eq] at hrange
      omega
  have hlt : slice.next.toNat < items.length := by omega
  refine ⟨items[slice.next.toNat], ?_⟩
  rw [element?, if_neg (by omega)]
  exact List.getElem?_eq_getElem hlt

/-- The cursor of a slice yields the elements at its places, for as many rounds as
it is given. -/
theorem toList_elements {α : Type} {items : List α} (rounds : Nat) {slice : Slice}
    (h : Within items.length slice) :
    (elements items rounds slice).toList =
      (((List.range rounds).map slice.place).takeWhile slice.covers).filterMap
        (element? items) := by
  induction rounds generalizing slice with
  | zero => rfl
  | succ rounds ih =>
      have hplaces : (List.range (rounds + 1)).map slice.place =
          slice.next :: (List.range rounds).map slice.advance.place := by
        rw [List.range_succ_eq_map, List.map_cons, place_zero, List.map_map]
        congr 1
        exact List.map_congr_left fun strides _ => place_succ slice strides
      rw [hplaces, elements, List.takeWhile_cons, covers_next]
      by_cases hrange : slice.inRange = true
      · obtain ⟨item, hitem⟩ := exists_element_of_inRange h hrange
        rw [if_pos hrange, if_pos hrange, List.filterMap_cons, hitem]
        simp only [LazyList.toList_cons]
        rw [ih (within_advance h), covers_advance]
      · rw [if_neg hrange, if_neg hrange]
        rfl

end PathQuery.Slice
