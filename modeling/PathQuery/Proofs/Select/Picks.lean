import Mathlib.Data.List.Perm.Subperm
import Mathlib.Data.List.Sort
import PathQuery.Json.Basic
import PathQuery.Proofs.Select.SlicePlaces

/-!
# Picking from objects and arrays

Members are picked from an object by their names, and items from an array by their
places.  Names without a repetition pick no member twice, and places without a repetition
no item; places that ascend pick the items in the order of the array.  The places of a
slice never repeat, and ascend where its stride is positive.
-/

namespace PathQuery

open scoped List

/-! ## Members by their names -/

namespace Json

/-- The values of the members with some names, in the order of the names. -/
def memberValues (names : List String) (members : List (String × Json)) : List Json :=
  names.filterMap fun name => member? name members

theorem memberValues_singleton (name : String) (members : List (String × Json)) :
    memberValues [name] members = (member? name members).toList := by
  rw [memberValues, List.filterMap_cons]
  cases member? name members <;> rfl

theorem memberValues_nil (names : List String) : memberValues names [] = [] :=
  List.filterMap_eq_nil_iff.2 fun _ _ => rfl

/-- Names pick nothing but values of members. -/
theorem memberValues_subset (names : List String) (members : List (String × Json)) :
    memberValues names members ⊆ members.map Prod.snd := by
  intro value hvalue
  obtain ⟨name, -, hname⟩ := List.mem_filterMap.1 hvalue
  obtain ⟨before, after, rfl, -⟩ := List.lookup_eq_some_iff.1 hname
  rw [List.map_append, List.map_cons]
  exact List.mem_append_right _ List.mem_cons_self

theorem member?_cons (name : String) (member : String × Json)
    (members : List (String × Json)) :
    member? name (member :: members) =
      if name = member.1 then some member.2 else member? name members := by
  rw [member?, member?, List.lookup_cons]
  by_cases h : name = member.1
  · rw [if_pos h, beq_iff_eq.2 h]
  · rw [if_neg h, beq_eq_false_iff_ne.2 h]

theorem memberValues_cons_of_not_mem {names : List String} {member : String × Json}
    (h : member.1 ∉ names) (members : List (String × Json)) :
    memberValues names (member :: members) = memberValues names members := by
  refine List.filterMap_congr ?_
  intro name hname
  have hne : name ≠ member.1 := by
    rintro rfl
    exact h hname
  rw [member?_cons, if_neg hne]

/-- Names that do not repeat pick the first member once, and what the other names pick is
picked from the other members. -/
theorem memberValues_cons_of_mem {names : List String} (hnames : names.Nodup)
    {member : String × Json} (h : member.1 ∈ names) (members : List (String × Json)) :
    memberValues names (member :: members) ~
      member.2 :: memberValues (names.erase member.1) members := by
  have hfirst : memberValues names (member :: members) ~
      memberValues (member.1 :: names.erase member.1) (member :: members) :=
    (List.perm_cons_erase h).filterMap _
  have hothers : memberValues (names.erase member.1) (member :: members) =
      memberValues (names.erase member.1) members :=
    memberValues_cons_of_not_mem hnames.not_mem_erase members
  rw [← hothers]
  refine hfirst.trans (List.Perm.of_eq ?_)
  rw [memberValues, List.filterMap_cons, member?_cons, if_pos rfl]
  rfl

/-- A single name picks a single member. -/
theorem memberValues_singleton_sublist (name : String) (members : List (String × Json)) :
    memberValues [name] members <+ members.map Prod.snd := by
  rw [memberValues_singleton]
  induction members with
  | nil => exact List.nil_sublist _
  | cons member rest ih =>
      rw [member?_cons, List.map_cons]
      by_cases h : name = member.1
      · rw [if_pos h]
        exact List.singleton_sublist.2 List.mem_cons_self
      · rw [if_neg h]
        exact ih.cons _

/-- Names that do not repeat pick no member twice. -/
theorem memberValues_subperm {names : List String} (hnames : names.Nodup)
    (members : List (String × Json)) :
    memberValues names members <+~ members.map Prod.snd := by
  induction members generalizing names with
  | nil =>
      rw [memberValues_nil]
      exact List.nil_subperm
  | cons member rest ih =>
      rw [List.map_cons]
      by_cases h : member.1 ∈ names
      · refine (memberValues_cons_of_mem hnames h rest).subperm.trans ?_
        exact (List.subperm_cons _).2 (ih (hnames.erase _))
      · rw [memberValues_cons_of_not_mem h]
        exact (ih hnames).cons_right _

/-- Where no two members have the same name, names that do not repeat pick every member
that has one of them. -/
theorem memberValues_perm {names : List String} (hnames : names.Nodup)
    {members : List (String × Json)} (hmembers : (members.map Prod.fst).Nodup) :
    memberValues names members ~
      (members.filter fun member => names.contains member.1).map Prod.snd := by
  induction members generalizing names with
  | nil =>
      rw [memberValues_nil]
      exact List.Perm.refl _
  | cons member rest ih =>
      rw [List.map_cons, List.nodup_cons] at hmembers
      obtain ⟨hother, hrest⟩ := hmembers
      by_cases h : member.1 ∈ names
      · have hsame : (rest.filter fun other => (names.erase member.1).contains other.1) =
            rest.filter fun other => names.contains other.1 := by
          refine List.filter_congr ?_
          intro other hmem
          have hne : other.1 ≠ member.1 := by
            intro heq
            exact hother (heq ▸ List.mem_map_of_mem hmem)
          rw [Bool.eq_iff_iff, List.contains_iff_mem, List.contains_iff_mem,
            List.mem_erase_of_ne hne]
        refine (memberValues_cons_of_mem hnames h rest).trans ?_
        rw [List.filter_cons_of_pos (by simpa using h), List.map_cons, ← hsame]
        exact (ih (hnames.erase _) hrest).cons _
      · rw [memberValues_cons_of_not_mem h, List.filter_cons_of_neg (by simpa using h)]
        exact ih hnames hrest

end Json

/-! ## Items by their places -/

namespace Slice

variable {α : Type}

/-- The items at some places of an array. -/
def itemsAt (items : List α) (places : List Int) : List α :=
  places.filterMap (element? items)

/-- The index of a place in an array of `count` items, if it lies in it. -/
def indexIn? (count : Nat) (place : Int) : Option Nat :=
  if 0 ≤ place ∧ place < count then some place.toNat else none

theorem indexIn?_eq_some {count : Nat} {place : Int} {index : Nat}
    (h : indexIn? count place = some index) : place = index ∧ index < count := by
  unfold indexIn? at h
  split at h
  · cases h
    omega
  · cases h

theorem element?_eq_bind (items : List α) (place : Int) :
    element? items place = (indexIn? items.length place).bind (items[·]?) := by
  rw [element?, indexIn?]
  by_cases hnegative : place < 0
  · rw [if_pos hnegative, if_neg (by omega)]
    rfl
  · by_cases hbeyond : (items.length : Int) ≤ place
    · rw [if_neg hnegative, if_neg (by omega)]
      exact List.getElem?_eq_none (by omega)
    · rw [if_neg hnegative, if_pos (by omega)]
      rfl

theorem itemsAt_eq (items : List α) (places : List Int) :
    itemsAt items places =
      (places.filterMap (indexIn? items.length)).filterMap (items[·]?) := by
  rw [itemsAt, List.filterMap_filterMap]
  exact List.filterMap_congr fun place _ => element?_eq_bind items place

theorem itemsAt_nil (places : List Int) : itemsAt ([] : List α) places = [] := by
  refine List.filterMap_eq_nil_iff.2 ?_
  intro place _
  rw [element?]
  split
  · rfl
  · rfl

/-- Places lead to nothing but items. -/
theorem itemsAt_subset (items : List α) (places : List Int) :
    itemsAt items places ⊆ items := by
  intro item hitem
  rw [itemsAt_eq] at hitem
  obtain ⟨index, -, hindex⟩ := List.mem_filterMap.1 hitem
  exact List.mem_of_getElem? hindex

/-- All indices of an array lead to all its items. -/
theorem filterMap_range (items : List α) :
    (List.range items.length).filterMap (items[·]?) = items := by
  induction items with
  | nil => rfl
  | cons item rest ih =>
      rw [List.length_cons, List.range_succ_eq_map, List.filterMap_cons, List.filterMap_map]
      exact congrArg (item :: ·) ih

/-- Indices of an array that do not repeat are some of all its indices. -/
theorem indices_subperm {count : Nat} {places : List Int}
    (h : (places.filterMap (indexIn? count)).Nodup) :
    places.filterMap (indexIn? count) <+~ List.range count := by
  refine List.subperm_of_subset h ?_
  intro index hindex
  obtain ⟨place, -, hplace⟩ := List.mem_filterMap.1 hindex
  exact List.mem_range.2 (indexIn?_eq_some hplace).2

/-- Places without a repetition lead to no item twice. -/
theorem itemsAt_subperm (items : List α) {places : List Int} (h : places.Nodup) :
    itemsAt items places <+~ items := by
  have hindices : (places.filterMap (indexIn? items.length)).Nodup := by
    refine h.filterMap ?_
    intro place other index hplace hother
    rw [(indexIn?_eq_some hplace).1, (indexIn?_eq_some hother).1]
  obtain ⟨indices, hperm, hsublist⟩ := indices_subperm hindices
  have hpicked := hsublist.filterMap (items[·]?)
  rw [filterMap_range] at hpicked
  rw [itemsAt_eq]
  exact ⟨_, hperm.filterMap _, hpicked⟩

/-- Places that ascend lead to items in the order of the array. -/
theorem itemsAt_sublist (items : List α) {places : List Int} (h : places.Pairwise (· < ·)) :
    itemsAt items places <+ items := by
  have hindices : (places.filterMap (indexIn? items.length)).Pairwise (· < ·) := by
    refine h.filterMap _ ?_
    intro place other hlt index hindex later hlater
    have := (indexIn?_eq_some hindex).1
    have := (indexIn?_eq_some hlater).1
    omega
  have hsublist := List.sublist_of_subperm_of_pairwise (indices_subperm hindices.nodup)
    hindices List.pairwise_lt_range
  have hpicked := hsublist.filterMap (items[·]?)
  rwa [← itemsAt_eq, filterMap_range] at hpicked

/-! ## Slices -/

/-- The places of a slice of an array of `count` items. -/
def places (count : Nat) (slice : Slice) : List Int :=
  ((List.range count).map slice.place).takeWhile slice.covers

theorem picked_eq (items : List α) (slice : Slice) :
    picked items slice = itemsAt items (slice.places items.length) := rfl

theorem nodup_places (count : Nat) {slice : Slice} (h : slice.stride ≠ 0) :
    (slice.places count).Nodup := by
  refine List.Nodup.sublist (List.takeWhile_sublist _) ?_
  refine List.nodup_range.map ?_
  intro strides others heq
  have hproduct : (strides : Int) * slice.stride = others * slice.stride := by
    simpa [place] using heq
  exact Int.ofNat_inj.1 (Int.eq_of_mul_eq_mul_right h hproduct)

theorem pairwise_places (count : Nat) {slice : Slice} (h : 0 < slice.stride) :
    (slice.places count).Pairwise (· < ·) := by
  refine List.Pairwise.sublist (List.takeWhile_sublist _) ?_
  refine List.pairwise_lt_range.map _ ?_
  intro strides others hlt
  have hproduct : (strides : Int) * slice.stride < others * slice.stride :=
    Int.mul_lt_mul_of_pos_right (by omega) h
  simpa [place] using hproduct

/-- A slice without a place left picks nothing. -/
theorem picked_of_not_inRange (items : List α) {slice : Slice} (h : slice.inRange = false) :
    picked items slice = [] := by
  rw [picked]
  cases items.length with
  | zero => rfl
  | succ count =>
      rw [List.range_succ_eq_map, List.map_cons, place_zero, List.takeWhile_cons, covers_next,
        h]
      rfl

end Slice

end PathQuery
