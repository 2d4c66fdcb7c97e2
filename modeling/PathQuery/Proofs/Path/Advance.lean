import Mathlib.Data.List.Perm.Subperm
import PathQuery.Proofs.Path.Diagnosis
import PathQuery.Proofs.Path.RoutineCalls

/-!
# Routines advance and end

At any time the routines that are open have called one another, and the first of them was
called for the whole text.  Each has an answer, and the cursor comes to a place that is not
before its own.  A routine that is called again while it is open is called further on in the
text, so it is open no more often than the text is long.
-/

namespace PathQuery.Path.Cursor

open Scan

/-- The calls that are open at one time, without that of the whole text: it makes the first
one, and each makes the next. -/
def IsStack (text : List Char) (stack : List Frame) : Prop :=
  (Frame.main :: stack).IsChain (Invokes text)

instance (text : List Char) (stack : List Frame) : Decidable (IsStack text stack) :=
  inferInstanceAs (Decidable (List.IsChain _ _))

/-- A call that comes to its end and takes the cursor along: the routine does what its body
says and has an answer, which is that of the reader of its part.  Behind a value the cursor
is within the text and not before the call, for most routines behind it, and at a closing
bracket if the routine reads up to one. -/
structure Frame.Advances (text : String) (frame : Frame) : Prop where
  unfolds : ((routines text.toList).body text.toList).answer frame =
    (routines text.toList).answer frame
  ends : ∃ outcome, (routines text.toList).answer frame = some outcome
  reads : ∃ rest, frame.Stands text.toList rest ∧
    (routines text.toList).answer frame =
      placed text.toList (frame.routine.reader text.toList.length frame.flag rest)
  advances : ∀ value there, (routines text.toList).answer frame = some (.ok (value, there)) →
    frame.place ≤ there ∧ there ≤ text.utf8ByteSize
  consumes : frame.routine.consumes = true → ∀ value there,
    (routines text.toList).answer frame = some (.ok (value, there)) → frame.place < there
  closes : frame.routine.closes = true → ∀ value there,
    (routines text.toList).answer frame = some (.ok (value, there)) →
      byteAt text.toList there = some ']'

section Stands

variable {text rest : List Char} {frame : Frame}

/-- What is longer begins at an earlier place. -/
theorem placeOf_lt_of_length {left : List Char} (h : rest <:+ text) (hleft : left <:+ rest)
    (hlength : left.length < rest.length) : placeOf text rest < placeOf text left := by
  obtain ⟨token, rfl⟩ := hleft
  obtain ⟨c, token, rfl⟩ : ∃ c others, token = c :: others := by
    apply List.exists_cons_of_ne_nil
    rintro rfl
    exact Nat.lt_irrefl _ hlength
  exact placeOf_lt h

/-- A call where its part may begin is answered, and takes the cursor along. -/
theorem Frame.Stands.advances {text : String} (h : frame.Stands text.toList rest) :
    frame.Advances text := by
  constructor
  · exact h.unfolds
  · exact ⟨_, h.answer_eq⟩
  · exact ⟨rest, h, h.answer_eq⟩
  · intro value there hanswer
    have hle := h.place_le hanswer
    obtain ⟨left, rfl, -⟩ := h.exists_left hanswer
    exact ⟨hle, byteLength_toList text ▸ placeOf_le text.toList left⟩
  · intro hconsumes value there hanswer
    obtain ⟨left, rfl, hleaves⟩ := h.exists_left hanswer
    rw [h.place]
    exact placeOf_lt_of_length h.suffix hleaves.suffix (hleaves.consumes hconsumes)
  · intro hcloses value there hanswer
    obtain ⟨left, rfl, hleaves⟩ := h.exists_left hanswer
    rw [byteAt_head (hleaves.suffix.trans h.suffix), hleaves.closes hcloses]
    rfl

/-- Where the first byte of a part has been looked at, there is one. -/
theorem Frame.Stands.ne_nil (h : frame.Stands text rest) (hmain : frame.routine ≠ .main)
    (hsighted : frame.sighted = true) : rest ≠ [] := by
  obtain ⟨routine, flag, place⟩ := frame
  have hbegins := h.begins
  cases routine with
  | main => exact absurd rfl hmain
  | path => exact hbegins (Bool.not_eq_true' _ ▸ hsighted)
  | array => exact hbegins.1
  | number =>
      obtain ⟨c, after, rfl, -⟩ := hbegins
      exact List.cons_ne_nil c after
  | indexer | names | string | filter | regex =>
      obtain ⟨after, rfl⟩ := hbegins
      exact List.cons_ne_nil _ after
  | disjunction | conjunction | term | operand => exact nomatch hsighted

/-- What has been looked at is within the text. -/
theorem Frame.Stands.seen_le_length (h : frame.Stands text rest) (hmain : frame.routine ≠ .main) :
    frame.seen ≤ Text.byteLength text := by
  rw [Frame.seen, h.place]
  split
  next hsighted =>
    obtain ⟨c, after, rfl⟩ := List.exists_cons_of_ne_nil (h.ne_nil hmain hsighted)
    have hbehind : placeOf text (c :: after) < placeOf text after :=
      placeOf_lt_of_length h.suffix (List.suffix_cons c after) (Nat.lt_succ_self _)
    exact (Nat.succ_le_of_lt hbehind).trans (placeOf_le text after)
  next => exact placeOf_le text rest

end Stands

/-! ## Stacks of calls -/

section Stacks

variable {text : List Char} {stack : List Frame}

theorem Frame.MayCall.trans {a b c : Frame} (hab : a.MayCall text b) (hbc : b.MayCall text c) :
    a.MayCall text c :=
  ⟨hbc.stands, hab.place.trans hbc.place, hab.seen.trans hbc.seen⟩

instance : IsTrans Frame (Frame.MayCall text) :=
  ⟨fun _ _ _ => Frame.MayCall.trans⟩

/-- Calls that follow one another from where the first part may begin are made as they may be. -/
theorem isChain_mayCall {caller : Frame} (hstands : ∃ rest, caller.Stands text rest)
    (h : (caller :: stack).IsChain (Invokes text)) :
    (caller :: stack).IsChain (Frame.MayCall text) := by
  induction stack generalizing caller with
  | nil => exact .singleton caller
  | cons callee stack ih =>
      obtain ⟨hinvokes, htail⟩ := List.isChain_cons_cons.1 h
      obtain ⟨rest, hrest⟩ := hstands
      have hcall := hinvokes.mayCall hrest
      exact List.isChain_cons_cons.2 ⟨hcall, ih hcall.stands htail⟩

theorem stands_main (text : List Char) : Frame.main.Stands text text :=
  ⟨List.suffix_rfl, (placeOf_self text).symm, rfl⟩

/-- Of the calls in a stack each may make all that follow. -/
theorem IsStack.pairwise (h : IsStack text stack) :
    (Frame.main :: stack).Pairwise (Frame.MayCall text) :=
  List.isChain_iff_pairwise.1 (isChain_mayCall ⟨text, stands_main text⟩ h)

/-- The whole text is not read again inside of itself. -/
theorem Frame.MayCall.ne_main {callee : Frame} (h : Frame.main.MayCall text callee) :
    callee.routine ≠ .main := by
  obtain ⟨routine, flag, place⟩ := callee
  rintro rfl
  obtain ⟨⟨rest, hstands⟩, hplace, -⟩ := h
  obtain rfl : rest = text := hstands.begins
  rw [hstands.place, placeOf_self] at hplace
  exact absurd hplace (Nat.lt_irrefl _)

/-- Numbers that grow from one on are no more than the last of them. -/
theorem length_le_of_pairwise {numbers : List Nat} {bound : Nat}
    (h : numbers.Pairwise (· < ·)) (hbounds : ∀ n ∈ numbers, 1 ≤ n ∧ n ≤ bound) :
    numbers.length ≤ bound := by
  have hnodup : numbers.Nodup := h.imp Nat.ne_of_lt
  have hsubset : numbers ⊆ List.range' 1 bound := by
    intro n hn
    obtain ⟨hone, hbound⟩ := hbounds n hn
    rw [List.mem_range'_1]
    omega
  calc numbers.length
    _ ≤ (List.range' 1 bound).length := (List.subperm_of_subset hnodup hsubset).length_le
    _ = bound := List.length_range'

/-- A routine is open no more often than the text is long, since more of the text has been
looked at each time that it is called. -/
theorem IsStack.countP_le (h : IsStack text stack) (routine : Routine) :
    stack.countP (fun frame => frame.routine = routine) ≤ Text.byteLength text := by
  obtain ⟨hmain, hstack⟩ := List.pairwise_cons.1 h.pairwise
  rw [List.countP_eq_length_filter, ← List.length_map (f := Frame.seen)]
  apply length_le_of_pairwise
  · rw [List.pairwise_map, List.pairwise_filter]
    apply hstack.imp
    intro outer inner hcall houter hinner
    have hseen := hcall.seen
    rw [of_decide_eq_true houter, of_decide_eq_true hinner] at hseen
    omega
  · intro n hn
    obtain ⟨frame, hframe, rfl⟩ := List.mem_map.1 hn
    have hcall := hmain frame (List.mem_of_mem_filter hframe)
    obtain ⟨rest, hstands⟩ := hcall.stands
    have hseen : 6 * 1 + 0 < 6 * frame.seen + frame.routine.level := hcall.seen
    have hlevel := frame.routine.level_lt
    exact ⟨by omega, hstands.seen_le_length hcall.ne_main⟩

end Stacks

/-- The routines read a path text as its reader does.  Whatever calls are open, each of them
is answered, with the cursor behind what was read; a routine that is called again while it is
open is called at a later place, and it is open no more often than the text has bytes. -/
theorem calls_advance (text : String) :
    ((routines text.toList).answer Frame.main).map (·.map (·.1)) =
        some ((parse text).map (·.steps)) ∧
      ∀ stack, IsStack text.toList stack →
        (∀ frame ∈ stack, frame.Advances text) ∧
        stack.Pairwise (fun outer inner =>
          inner.routine = outer.routine → outer.place < inner.place) ∧
        ∀ routine, stack.countP (fun frame => frame.routine = routine) ≤ text.utf8ByteSize := by
  constructor
  · rw [← stepsOf_eq, ← scanSteps_eq]
    rfl
  · intro stack hstack
    obtain ⟨hmain, hpairwise⟩ := List.pairwise_cons.1 hstack.pairwise
    refine ⟨?_, ?_, ?_⟩
    · intro frame hframe
      obtain ⟨rest, hstands⟩ := (hmain frame hframe).stands
      exact hstands.advances
    · apply hpairwise.imp
      intro outer inner hcall hroutine
      have hplace := hcall.place
      rw [hroutine] at hplace
      omega
    · intro routine
      rw [← byteLength_toList]
      exact hstack.countP_le routine

/-- The calls that are open behind the inner at sign of `[?(@[?(@)])]`. -/
def nestedCalls : List Frame :=
  [⟨.path, false, 0⟩, ⟨.indexer, false, 0⟩, ⟨.filter, false, 1⟩,
    ⟨.disjunction, false, 3⟩, ⟨.conjunction, false, 3⟩, ⟨.term, false, 3⟩, ⟨.operand, false, 3⟩,
    ⟨.path, true, 4⟩, ⟨.indexer, false, 4⟩, ⟨.filter, false, 5⟩,
    ⟨.disjunction, false, 7⟩, ⟨.conjunction, false, 7⟩, ⟨.term, false, 7⟩, ⟨.operand, false, 7⟩,
    ⟨.path, true, 8⟩]

/-- A path in a predicate of a path in a predicate. -/
theorem calls_advance_nested :
    IsStack "[?(@[?(@)])]".toList nestedCalls ∧
      nestedCalls.countP (fun frame => frame.routine = .path) = 3 ∧
      (∀ frame ∈ nestedCalls, frame.Advances "[?(@[?(@)])]") ∧
      nestedCalls.Pairwise (fun outer inner =>
        inner.routine = outer.routine → outer.place < inner.place) ∧
      ∀ routine, nestedCalls.countP (fun frame => frame.routine = routine) ≤
        "[?(@[?(@)])]".utf8ByteSize := by
  have hstack : IsStack "[?(@[?(@)])]".toList nestedCalls := by decide +kernel
  exact ⟨hstack, by decide, (calls_advance "[?(@[?(@)])]").2 nestedCalls hstack⟩

end PathQuery.Path.Cursor
