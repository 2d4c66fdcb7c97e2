import Mathlib.Data.List.TakeDrop
import Mathlib.Data.List.TakeWhile
import PathQuery.Text

/-!
# Runs of characters

A reader takes a longest run of characters of some kind.  This module tells what
such a reader finds in a run with something else behind it, and what becomes of
the blanks around a part of a path.
-/

namespace PathQuery

section Runs

variable {p : Char → Bool} {run rest : List Char}

/-- A run ends where a character of another kind begins. -/
theorem takeWhile_run
    (hrun : ∀ c ∈ run, p c = true) (hrest : ∀ c ∈ rest.head?, p c = false) :
    (run ++ rest).takeWhile p = run := by
  have hstop : rest.takeWhile p = [] := by
    cases rest with
    | nil => rfl
    | cons c after =>
        exact List.takeWhile_cons_of_neg (by simp [hrest c rfl])
  rw [List.takeWhile_append_of_pos hrun, hstop, List.append_nil]

/-- Behind a run the text goes on with a character of another kind. -/
theorem dropWhile_run
    (hrun : ∀ c ∈ run, p c = true) (hrest : ∀ c ∈ rest.head?, p c = false) :
    (run ++ rest).dropWhile p = rest := by
  rw [List.dropWhile_append_of_pos hrun]
  cases rest with
  | nil => rfl
  | cons c after =>
      exact List.dropWhile_cons_of_neg (by simp [hrest c rfl])

/-- What stands behind a longest run is of another kind. -/
theorem eq_false_of_dropWhile {text : List Char} {c : Char} (h : text.dropWhile p = c :: rest) :
    p c = false := by
  have hhead := List.head?_dropWhile_not p text
  rwa [h] at hhead

/-- A text is parted behind the longest run in front of it. -/
theorem exists_run (p : Char → Bool) (text : List Char) :
    ∃ run rest, text = run ++ rest ∧ (∀ c ∈ run, p c = true) ∧
      ∀ c ∈ rest.head?, p c = false := by
  refine ⟨text.takeWhile p, text.dropWhile p, List.takeWhile_append_dropWhile.symm,
    fun c hc => List.mem_takeWhile_imp hc, ?_⟩
  intro c hc
  obtain ⟨rest, hrest⟩ := List.head?_eq_some_iff.1 hc
  exact eq_false_of_dropWhile hrest

theorem span_run
    (hrun : ∀ c ∈ run, p c = true) (hrest : ∀ c ∈ rest.head?, p c = false) :
    (run ++ rest).span p = (run, rest) := by
  rw [List.span_eq_takeWhile_dropWhile, takeWhile_run hrun hrest, dropWhile_run hrun hrest]

end Runs

namespace Text

/-- A run of blanks. -/
def Blanks (text : List Char) : Prop :=
  ∀ c ∈ text, isBlank c = true

instance (text : List Char) : Decidable (Blanks text) :=
  List.decidableBAll (fun c => isBlank c = true) text

/-- A part of a path with blanks around it. -/
def Spaced (part text : List Char) : Prop :=
  ∃ before after, Blanks before ∧ Blanks after ∧ text = before ++ (part ++ after)

theorem blanks_nil : Blanks [] := by
  intro c hc
  cases hc

/-- A part stands for itself where there are no blanks. -/
theorem Spaced.refl (part : List Char) : Spaced part part :=
  ⟨[], [], blanks_nil, blanks_nil, (List.append_nil part).symm⟩

theorem skipBlanks_append
    {blanks : List Char} (hblanks : Blanks blanks) (text : List Char) :
    skipBlanks (blanks ++ text) = skipBlanks text :=
  List.dropWhile_append_of_pos hblanks

theorem skipBlanks_cons
    {c : Char} (hc : isBlank c = false) (text : List Char) :
    skipBlanks (c :: text) = c :: text :=
  List.dropWhile_cons_of_neg (by simp [hc])

/-- Nothing is left of a run of blanks. -/
theorem skipBlanks_blanks
    {blanks : List Char} (hblanks : Blanks blanks) :
    skipBlanks blanks = [] := by
  have hskip := skipBlanks_append hblanks []
  rwa [List.append_nil] at hskip

/-- A text is parted behind the blanks in front of it. -/
theorem exists_blanks (text : List Char) :
    ∃ before, Blanks before ∧ text = before ++ skipBlanks text :=
  ⟨text.takeWhile isBlank, fun _ hc => List.mem_takeWhile_imp hc,
    List.takeWhile_append_dropWhile.symm⟩

/-- Behind a run of blanks stands the mark that ends it. -/
theorem skipBlanks_mark
    {blanks : List Char} (hblanks : Blanks blanks) {mark : Char}
    (hmark : isBlank mark = false) (rest : List Char) :
    skipBlanks (blanks ++ mark :: rest) = mark :: rest := by
  rw [skipBlanks_append hblanks, skipBlanks_cons hmark]

/-- Blanks are skipped twice as well as once. -/
@[simp] theorem skipBlanks_skipBlanks (text : List Char) :
    skipBlanks (skipBlanks text) = skipBlanks text := by
  induction text with
  | nil => rfl
  | cons c rest ih =>
      cases hc : isBlank c with
      | true =>
          have hskip : skipBlanks (c :: rest) = skipBlanks rest :=
            List.dropWhile_cons_of_pos hc
          rw [hskip, ih]
      | false => rw [skipBlanks_cons hc, skipBlanks_cons hc]

theorem length_skipBlanks_le (text : List Char) :
    (skipBlanks text).length ≤ text.length :=
  (List.dropWhile_sublist isBlank).length_le

theorem Spaced.length_le
    {part text : List Char} (h : Spaced part text) :
    part.length ≤ text.length := by
  obtain ⟨before, after, _, _, rfl⟩ := h
  simp only [List.length_append]
  omega

theorem blanks_of_spaced_nil {text : List Char} (h : Spaced [] text) : Blanks text := by
  obtain ⟨before, after, hbefore, hafter, rfl⟩ := h
  rw [List.nil_append]
  exact List.forall_mem_append.2 ⟨hbefore, hafter⟩

/-- Behind the blanks in front of a part stands the part. -/
theorem Spaced.skip
    {c : Char} {part text : List Char}
    (h : Spaced (c :: part) text) (hc : isBlank c = false) :
    ∃ after, Blanks after ∧
      ∀ rest, skipBlanks (text ++ rest) = c :: (part ++ (after ++ rest)) := by
  obtain ⟨before, after, hbefore, hafter, rfl⟩ := h
  refine ⟨after, hafter, ?_⟩
  intro rest
  rw [List.append_assoc, skipBlanks_append hbefore, List.append_assoc, List.cons_append,
    skipBlanks_cons hc]

end Text

end PathQuery
