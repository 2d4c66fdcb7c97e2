import PathQuery.Path.Reader
import PathQuery.Proofs.Select.Eager
import PathQuery.Proofs.Select.SliceRange

/-!
# Slices in machine integers

A slice can be walked in integers of 64 bits.  A sum that overflows has no answer, and
neither has an access outside of the array nor a loop that goes on for longer than the
array; only the step of the cursor saturates.  For every array whose length is a machine
integer the walk always has an answer, also where bounds and stride are as large as
machine integers can be.  The answer is what Python's slice of the array holds.
-/

namespace PathQuery.Slice

/-! ## The cursor -/

/-- The sum of two integers, unless it overflows. -/
def sum? (a b : Int64) : Option Int64 :=
  Path.int64? (a.toInt + b.toInt)

/-- The sum of two integers, or the integer nearest to it. -/
def saturatingSum (a b : Int64) : Int64 :=
  Int64.ofInt (max (-2 ^ 63) (min (2 ^ 63 - 1) (a.toInt + b.toInt)))

/-- The integer of a range that is nearest to another. -/
def clamp (low high value : Int64) : Int64 :=
  if value < low then low else if high < value then high else value

/-- A slice in machine integers. -/
structure Cursor where
  next : Int64
  stop : Int64
  stride : Int64

namespace Cursor

/-- The number of elements of an array as a machine integer. -/
def countOf (length : Nat) : Int64 :=
  (Path.int64? length).getD Int64.maxValue

/-- A bound counted from the beginning, or what stands for an absent one. -/
def bound? (count : Int64) (absent : Option Int64) : Option Int64 → Option Int64
  | some bound => if bound < 0 then sum? count bound else some bound
  | none => absent

/-- The cursor of a slice of an array of `count` elements. -/
def ofBounds? (count : Int64) (start stop stride : Option Int64) : Option Cursor := do
  let stride := stride.getD 1
  let last := sum? count (-1)
  let next ← bound? count (if 0 < stride then some 0 else last) start
  let stop ← bound? count (if 0 < stride then some count else some (-1)) stop
  let next ← if 0 < stride then some (clamp 0 count next)
    else last.map fun last => if last < next then last else next
  return ⟨next, clamp (-1) count stop, stride⟩

/-- If there is a place left. -/
def inRange (cursor : Cursor) : Bool :=
  if 0 < cursor.stride then cursor.next < cursor.stop else cursor.stop < cursor.next

/-- The cursor behind its next place. -/
def advance (cursor : Cursor) : Cursor :=
  { cursor with next := saturatingSum cursor.next cursor.stride }

/-- The elements that a cursor passes, if it ends within some rounds and every access is
to an element. -/
def elements? {α : Type} (items : List α) : Nat → Cursor → Option (List α)
  | 0, _ => none
  | rounds + 1, cursor =>
    if cursor.inRange then do
      let item ← element? items cursor.next.toInt
      return item :: (← elements? items rounds cursor.advance)
    else some []

/-- The slice that a cursor stands for. -/
def slice (cursor : Cursor) : Slice :=
  ⟨cursor.next.toInt, cursor.stop.toInt, cursor.stride.toInt⟩

end Cursor

/-! ## Nothing overflows -/

theorem toInt_ofInt {value : Int} (h : -2 ^ 63 ≤ value ∧ value < 2 ^ 63) :
    (Int64.ofInt value).toInt = value :=
  Int64.toInt_ofInt_of_le h.1 h.2

theorem sum?_eq_some {a b : Int64}
    (h : -2 ^ 63 ≤ a.toInt + b.toInt ∧ a.toInt + b.toInt < 2 ^ 63) :
    ∃ sum, sum? a b = some sum ∧ sum.toInt = a.toInt + b.toInt := by
  refine ⟨Int64.ofInt (a.toInt + b.toInt), ?_, toInt_ofInt h⟩
  rw [sum?, Path.int64?, if_pos h]

theorem toInt_saturatingSum (a b : Int64) :
    (saturatingSum a b).toInt = max (-2 ^ 63) (min (2 ^ 63 - 1) (a.toInt + b.toInt)) :=
  toInt_ofInt ⟨by omega, by omega⟩

theorem toInt_clamp {low high : Int64} (h : low ≤ high) (value : Int64) :
    (clamp low high value).toInt = max low.toInt (min value.toInt high.toInt) := by
  rw [Int64.le_iff_toInt_le] at h
  unfold clamp
  simp only [Int64.lt_iff_toInt_lt]
  split
  · omega
  · split
    · omega
    · omega

namespace Cursor

theorem inRange_slice (cursor : Cursor) : cursor.slice.inRange = cursor.inRange := by
  unfold inRange slice Slice.inRange
  simp only [Int64.lt_iff_toInt_lt, Int64.toInt_zero]

section Bounds

variable {count : Int64} {length : Nat}

theorem toInt_countOf (h : length < 2 ^ 63) : (countOf length).toInt = length := by
  have hrange : -2 ^ 63 ≤ (length : Int) ∧ (length : Int) < 2 ^ 63 := by omega
  rw [countOf, Path.int64?, if_pos hrange]
  exact toInt_ofInt hrange

/-- A bound is counted from the beginning without an overflow: it is added to the count
only where it is negative. -/
theorem bound?_eq_some (hcount : count.toInt = length) {absent : Option Int64}
    {default : Int} (habsent : ∃ value, absent = some value ∧ value.toInt = default)
    (bound : Option Int64) :
    ∃ value, bound? count absent bound = some value ∧
      value.toInt = ((bound.map Int64.toInt).map (fromBeginning length)).getD default := by
  cases bound with
  | none => exact habsent
  | some bound =>
      simp only [bound?, Option.map_some, Option.getD_some, fromBeginning,
        Int64.lt_iff_toInt_lt, Int64.toInt_zero, ← hcount]
      have hlow := Int64.le_toInt bound
      have hhigh := Int64.toInt_lt bound
      have hlimit := Int64.toInt_lt count
      by_cases hnegative : bound.toInt < 0
      · rw [if_pos hnegative, if_pos hnegative]
        exact sum?_eq_some ⟨by omega, by omega⟩
      · rw [if_neg hnegative, if_neg hnegative]
        exact ⟨bound, rfl, rfl⟩

theorem toInt_getD (stride : Option Int64) :
    (stride.getD 1).toInt = (stride.map Int64.toInt).getD 1 := by
  cases stride with
  | none => rfl
  | some stride => rfl

/-- The cursor of a slice has the bounds that are computed without limit. -/
theorem ofBounds?_eq_some (hcount : count.toInt = length) (start stop stride : Option Int64) :
    ∃ cursor, ofBounds? count start stop stride = some cursor ∧
      cursor.slice = Slice.ofBounds length (start.map Int64.toInt) (stop.map Int64.toInt)
        (stride.map Int64.toInt) := by
  have hminusOne : (-1 : Int64).toInt = -1 := by decide
  have hlimit := Int64.toInt_lt count
  obtain ⟨last, hlast, hlastValue⟩ : ∃ last, sum? count (-1) = some last ∧
      last.toInt = (length : Int) - 1 := by
    rw [← hcount, Int.sub_eq_add_neg, ← hminusOne]
    exact sum?_eq_some ⟨by omega, by omega⟩
  have hbelow : (-1 : Int64) ≤ count := by
    rw [Int64.le_iff_toInt_le]
    omega
  have hsign : 0 < stride.getD 1 ↔ 0 < (stride.map Int64.toInt).getD 1 := by
    rw [Int64.lt_iff_toInt_lt, toInt_getD, Int64.toInt_zero]
  by_cases hforward : 0 < stride.getD 1
  · obtain ⟨next, hnext, hnextValue⟩ :=
      bound?_eq_some hcount ⟨0, rfl, Int64.toInt_zero⟩ start
    obtain ⟨stop', hstop, hstopValue⟩ := bound?_eq_some hcount ⟨count, rfl, hcount⟩ stop
    refine ⟨⟨clamp 0 count next, clamp (-1) count stop', stride.getD 1⟩, ?_, ?_⟩
    · simp only [ofBounds?, if_pos hforward, hnext, hstop]
      rfl
    · have hzero : (0 : Int64) ≤ count := by
        rw [Int64.le_iff_toInt_le, Int64.toInt_zero]
        omega
      simp only [slice, Slice.ofBounds, if_pos (hsign.1 hforward), toInt_clamp hzero,
        toInt_clamp hbelow, hnextValue, hstopValue, toInt_getD, hminusOne, Int64.toInt_zero,
        hcount]
  · obtain ⟨next, hnext, hnextValue⟩ := bound?_eq_some hcount ⟨last, rfl, hlastValue⟩ start
    obtain ⟨stop', hstop, hstopValue⟩ := bound?_eq_some hcount ⟨-1, rfl, hminusOne⟩ stop
    refine ⟨⟨if last < next then last else next, clamp (-1) count stop', stride.getD 1⟩, ?_, ?_⟩
    · simp only [ofBounds?, if_neg hforward, hlast, hnext, hstop]
      rfl
    · have hleast : (if last < next then last else next).toInt = min next.toInt last.toInt := by
        simp only [Int64.lt_iff_toInt_lt]
        split
        · omega
        · omega
      simp only [slice, Slice.ofBounds, if_neg (fun h => hforward (hsign.2 h)), hleast,
        toInt_clamp hbelow, hnextValue, hstopValue, hlastValue, toInt_getD, hminusOne, hcount]

end Bounds

section Walk

variable {α : Type} {items : List α} {cursor : Cursor}

/-- If a cursor is at the place of a slice, or both have left the slice. -/
def Follows (cursor : Cursor) (slice : Slice) : Prop :=
  cursor.slice = slice ∨ cursor.inRange = false ∧ slice.inRange = false

theorem Follows.inRange {slice : Slice} (h : cursor.Follows slice) :
    cursor.inRange = slice.inRange := by
  rcases h with rfl | ⟨hcursor, hslice⟩
  · exact cursor.inRange_slice.symm
  · rw [hcursor, hslice]

/-- A step that overflows leaves the slice, and so does the step that saturates. -/
theorem follows_advance
    (hlength : items.length < 2 ^ 63) (hwithin : Within items.length cursor.slice)
    (hrange : cursor.slice.inRange = true) :
    cursor.advance.Follows cursor.slice.advance := by
  have hsum := toInt_saturatingSum cursor.next cursor.stride
  have hlow := Int64.le_toInt cursor.stride
  have hhigh := Int64.toInt_lt cursor.stride
  by_cases hfits : -2 ^ 63 ≤ cursor.next.toInt + cursor.stride.toInt ∧
      cursor.next.toInt + cursor.stride.toInt < 2 ^ 63
  · left
    have hexact : (saturatingSum cursor.next cursor.stride).toInt =
        cursor.next.toInt + cursor.stride.toInt := by
      rw [hsum]
      omega
    simp only [slice, advance, Slice.advance, hexact]
  · right
    rw [← inRange_slice, ← Bool.not_eq_true, ← Bool.not_eq_true, inRange_eq_true_iff,
      inRange_eq_true_iff]
    rw [inRange_eq_true_iff] at hrange
    unfold Within at hwithin
    simp only [slice, advance, Slice.advance, hsum] at hwithin hrange ⊢
    by_cases hforward : 0 < cursor.stride.toInt
    · simp only [hforward, if_true] at hwithin hrange ⊢
      omega
    · simp only [hforward, if_false] at hwithin hrange ⊢
      omega

/-- A cursor passes the elements at the places of its slice, and every access is to an
element. -/
theorem elements?_eq_some {slice : Slice} (hlength : items.length < 2 ^ 63)
    (hstride : slice.stride ≠ 0) (hwithin : Within items.length slice)
    (hfollows : cursor.Follows slice) :
    ∀ rounds, slice.extent < rounds →
      ∃ found, cursor.elements? items rounds = some found ∧
        found.map some = slice.range.map (element? items) := by
  intro rounds
  induction rounds generalizing cursor slice with
  | zero =>
      intro hrounds
      exact absurd hrounds (Nat.not_lt_zero _)
  | succ rounds ih =>
      intro hrounds
      by_cases hrange : slice.inRange = true
      · obtain rfl : cursor.slice = slice := by
          rcases hfollows with hsame | ⟨-, hleft⟩
          · exact hsame
          · rw [hrange] at hleft
            cases hleft
        obtain ⟨item, hitem⟩ := exists_element_of_inRange hwithin hrange
        have hfewer := extent_of_inRange hstride hrange
        have hadvanced : cursor.slice.advance.stride ≠ 0 := hstride
        obtain ⟨found, hfound, hplaces⟩ := ih hadvanced
          (within_advance hwithin) (follows_advance hlength hwithin hrange) (by omega)
        refine ⟨item :: found, ?_, ?_⟩
        · have hnext : element? items cursor.next.toInt = some item := hitem
          rw [elements?, if_pos (hfollows.inRange.trans hrange), hnext]
          simp only [bind, Option.bind, hfound]
          rfl
        · rw [range_of_inRange hstride hrange, List.map_cons, List.map_cons, hitem, hplaces]
      · have hleft : slice.inRange = false := by simpa using hrange
        refine ⟨[], ?_, ?_⟩
        · rw [elements?, hfollows.inRange, hleft, if_neg Bool.false_ne_true]
        · rw [range_of_not_inRange hstride hleft]
          rfl

end Walk

end Cursor

/-- A slice yields nothing where no place is left. -/
theorem toList_elements_eq_nil_iff {α : Type} {items : List α} {slice : Slice}
    (hstride : slice.stride ≠ 0) (hwithin : Within items.length slice) :
    (elements items items.length slice).toList = [] ↔ slice.inRange = false := by
  have hplaces := map_some_elements hstride hwithin _ (extent_le hstride hwithin)
  constructor
  · intro hnil
    rw [hnil] at hplaces
    rw [← Bool.not_eq_true]
    intro hrange
    rw [range_of_inRange hstride hrange] at hplaces
    cases hplaces
  · intro hrange
    rw [range_of_not_inRange hstride hrange] at hplaces
    exact List.map_eq_nil_iff.1 hplaces

end Slice

/-- A slice of an array yields the elements at the places of its range in their order, for
all bounds and every stride but zero.  Strict settings fail where the range is empty.  The
walk in machine integers overflows nowhere, finds an element at each of its places and
yields the same. -/
theorem slice_yields_range (settings : Settings) (root : Json) (items : List Json)
    (start stop stride : Option Int64) (hstride : stride ≠ some 0) :
    ∃ found : List Json,
      found.map some =
        (Slice.adjusted items.length (start.map Int64.toInt) (stop.map Int64.toInt)
          ((stride.map Int64.toInt).getD 1)).range.map (Slice.element? items) ∧
      ((Step.slice start stop stride).outputs settings root (.array items)).toList =
        (if settings.strict = true ∧ found = [] then [.error (.emptySlice start stop)]
          else found.map .ok) ∧
      (items.length < 2 ^ 63 →
        ∃ cursor, Slice.Cursor.ofBounds? (Slice.Cursor.countOf items.length) start stop stride =
            some cursor ∧
          cursor.elements? items (items.length + 1) = some found) := by
  have hnonzero : (stride.map Int64.toInt).getD 1 ≠ 0 := by
    rw [← Slice.Cursor.toInt_getD, ← Int64.toInt_zero, Ne, Int64.toInt_inj]
    cases stride with
    | none => decide
    | some stride => simpa using hstride
  have hwithin := Slice.within_ofBounds items.length (start.map Int64.toInt)
    (stop.map Int64.toInt) (stride.map Int64.toInt)
  generalize hslice : Slice.ofBounds items.length (start.map Int64.toInt)
    (stop.map Int64.toInt) (stride.map Int64.toInt) = slice at hwithin
  have hsliceStride : slice.stride ≠ 0 := by
    rw [← hslice]
    exact hnonzero
  have hextent := Slice.extent_le hsliceStride hwithin
  have hplaces := Slice.map_some_elements hsliceStride hwithin _ hextent
  refine ⟨(Slice.elements items items.length slice).toList, ?_, ?_, ?_⟩
  · rw [hplaces, ← hslice, Slice.range_ofBounds hnonzero]
  · rw [Step.outputs, Settings.sliceItems, if_neg hstride]
    simp only [hslice, Slice.toList_elements_eq_nil_iff hsliceStride hwithin]
    cases hrange : slice.inRange with
    | true => simp
    | false =>
        have hnil := (Slice.toList_elements_eq_nil_iff hsliceStride hwithin).2 hrange
        rw [hnil, if_neg Bool.false_ne_true, Settings.missing]
        cases settings.strict with
        | true => rfl
        | false => rfl
  · intro hlength
    obtain ⟨cursor, hcursor, hsame⟩ :=
      Slice.Cursor.ofBounds?_eq_some (Slice.Cursor.toInt_countOf hlength) start stop stride
    obtain ⟨found, hfound, hfoundPlaces⟩ := Slice.Cursor.elements?_eq_some hlength hsliceStride
      hwithin (.inl (hsame.trans hslice)) (items.length + 1) (by omega)
    refine ⟨cursor, hcursor, ?_⟩
    rw [hfound, (List.map_inj_right fun _ _ => Option.some.inj).1
      (hfoundPlaces.trans hplaces.symm)]

/-- From beyond the end and with the longest stride backwards, a slice has one place. -/
theorem slice_yields_range_far :
    some Int64.minValue ≠ some (0 : Int64) ∧
      ((Step.slice (some Int64.maxValue) none (some Int64.minValue)).outputs
        { strict := true } .null (.array [.null, .bool true])).toList = [.ok (.bool true)] := by
  have hstride : some Int64.minValue ≠ some (0 : Int64) := by decide
  obtain ⟨found, hplaces, houtputs, -⟩ := slice_yields_range { strict := true } .null
    [.null, .bool true] (some Int64.maxValue) none (some Int64.minValue) hstride
  have hrange : (Slice.adjusted 2 (some Int64.maxValue.toInt) none Int64.minValue.toInt).range =
      [1] := by decide
  have hfound : found = [.bool true] := by
    refine (List.map_inj_right fun _ _ => Option.some.inj).1 (hplaces.trans ?_)
    exact congrArg (List.map (Slice.element? _)) hrange
  refine ⟨hstride, ?_⟩
  rw [houtputs, hfound, if_neg (by simp)]
  rfl

end PathQuery
