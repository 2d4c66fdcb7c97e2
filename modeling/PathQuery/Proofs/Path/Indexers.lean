import PathQuery.Path.Grammar
import PathQuery.Proofs.Path.Tokens

/-!
# Reading indexers

The first character of an indexer tells what stands in it: a quote begins names,
a question mark begins a filter, and everything else is an array indexer.
-/

namespace PathQuery.Path

open Text

theorem namesStep_of_two_le
    {names : List String} (h : 2 ≤ names.length) (descending : Bool) :
    namesStep descending names = if descending then .descendAny ⟨names⟩ else .members names := by
  obtain _ | ⟨first, _ | ⟨second, others⟩⟩ := names
  · simp at h
  · simp at h
  · rfl

section Indexers

variable {nested : Reader Condition} {descending : Bool} {text rest : List Char}

/-- Names in a bracket begin with a quote. -/
theorem names_skip
    {names : List String} (htext : Separated BracketName ',' names text)
    (rest : List Char) :
    ∃ more, skipBlanks (text ++ rest) = '\'' :: more := by
  cases htext with
  | one hname =>
      obtain ⟨inner, after, _, hskip, _⟩ := hname.read
      exact ⟨_, hskip rest⟩
  | more hname _ =>
      obtain ⟨inner, after, _, hskip, _⟩ := hname.read
      rw [List.append_assoc]
      exact ⟨_, hskip _⟩

theorem indexer_names
    {names : List String} (htext : Separated BracketName ',' names text) :
    indexer nested descending (text ++ ']' :: rest) =
      .ok ([namesStep descending names], ']' :: rest) := by
  obtain ⟨more, hskip⟩ := names_skip htext (']' :: rest)
  have hread := quotedNames_text htext rest (more.length + 1) (by simp [hskip])
  rw [hskip] at hread
  rw [indexer, hskip]
  simp only [hread]
  rfl

/-- What an array indexer reads begins with neither a quote nor a question mark. -/
theorem arrayIndexer_head
    {rounds : Nat} {form : IndexerForm} {read : Step × List Char}
    (h : arrayIndexer rounds form text = .ok read) :
    text ≠ [] ∧ text.head? ≠ some '\'' ∧ text.head? ≠ some '?' := by
  cases rounds with
  | zero => cases h
  | succ rounds =>
      refine ⟨?_, ?_, ?_⟩
      · rintro rfl
        cases h
      · intro hhead
        obtain ⟨more, rfl⟩ := List.head?_eq_some_iff.mp hhead
        cases h
      · intro hhead
        obtain ⟨more, rfl⟩ := List.head?_eq_some_iff.mp hhead
        cases h

/-- What begins with neither a quote nor a question mark is an array indexer. -/
theorem indexer_other
    {c : Char} (hskip : skipBlanks text = c :: rest) (hquote : c ≠ '\'') (hquery : c ≠ '?') :
    indexer nested descending text =
      (arrayIndexer (c :: rest).length .single (c :: rest)).map fun found =>
        (if descending then [.descend none, found.1] else [found.1], found.2) := by
  rw [indexer, hskip]
  split
  next hshape => cases hshape
  next hshape => exact absurd (List.cons.inj hshape).1 hquote
  next hshape => exact absurd (List.cons.inj hshape).1 hquery
  next => rfl

theorem indexer_array
    {step : Step} (htext : ArrayText step text) (hstep : (Part.step step).WellFormed) :
    indexer nested descending (text ++ ']' :: rest) =
      .ok (if descending then [.descend none, step] else [step], ']' :: rest) := by
  have hread := arrayIndexer_text htext hstep rest _ (Nat.le_refl _)
  obtain ⟨hnonempty, hquote, hquestion⟩ := arrayIndexer_head hread
  rw [indexer]
  split
  next hshape => exact absurd hshape hnonempty
  next hshape =>
    rw [hshape] at hquote
    exact absurd rfl hquote
  next hshape =>
    rw [hshape] at hquestion
    exact absurd rfl hquestion
  next =>
    rw [hread]
    rfl

theorem indexer_filter
    {condition : Condition} {inside : List Char}
    (hread : ∀ rest, nested (inside ++ ')' :: rest) = .ok (condition, ')' :: rest))
    (hspaced : Spaced ('?' :: '(' :: (inside ++ [')'])) text) :
    indexer nested descending (text ++ ']' :: rest) =
      .ok ([if descending then .descendFilter condition else .filter condition],
        ']' :: rest) := by
  obtain ⟨after, hafter, hskip⟩ := hspaced.skip (by decide)
  have hbracket : skipBlanks (after ++ ']' :: rest) = ']' :: rest :=
    skipBlanks_mark hafter rfl rest
  rw [indexer, hskip, List.cons_append, List.append_assoc, List.singleton_append]
  simp only [filterIndexer, hread, bind, Except.bind, closeParenthesis, hbracket, Except.map]

end Indexers

end PathQuery.Path
