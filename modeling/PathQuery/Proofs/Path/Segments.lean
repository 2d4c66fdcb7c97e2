import PathQuery.Path.Grammar
import PathQuery.Proofs.Runs

/-!
# Reading segments

The reader of segments keeps in mind what stands directly before a place and
whether two dots have been read.  This module takes one segment off the front of
a text: behind it the reader goes on as it does at the start of a path.
-/

namespace PathQuery.Path

/-- Puts steps in front of the steps that were read. -/
def behind (found : List Step) (read : List Step × List Char) : List Step × List Char :=
  (found ++ read.1, read.2)

/-- If a text does not go on with the characters of a name. -/
def NoName (inPredicate : Bool) (text : List Char) : Prop :=
  ∀ c ∈ text.head?, isNameChar inPredicate c = false

/-- A text is parted behind the name in front of it. -/
theorem exists_name (inPredicate : Bool) (text : List Char) :
    ∃ name left, text = name ++ left ∧ (∀ c ∈ name, isNameChar inPredicate c = true) ∧
      NoName inPredicate left :=
  exists_run (isNameChar inPredicate) text

/-- Reads the segments of a path where no name stands in front. -/
def segmentsAtMark (nested : Reader Condition) (inPredicate : Bool)
    (rounds : Nat) (descending : Bool) (before : Before) : Reader (List Step)
  | '[' :: rest => do
    let (found, rest) ← indexer nested descending rest
    (segments nested inPredicate rounds false .indexer rest.tail).map (behind found)
  | '.' :: '.' :: rest => segments nested inPredicate rounds true .dot rest
  | '.' :: rest => segments nested inPredicate rounds descending .dot rest
  | rest => endPath inPredicate before rest

section Segments

variable {nested : Reader Condition} {inPredicate : Bool} {text : List Char}

/-- A round reads the name in front, if there is one, and goes on at the mark behind
it; a name has taken up the two dots before it. -/
theorem segments_run
    {name : List Char} {before : Before}
    (hname : ∀ c ∈ name, isNameChar inPredicate c = true)
    (htext : NoName inPredicate text) (hbefore : before = .indexer → name = [])
    (rounds : Nat) (descending : Bool) :
    segments nested inPredicate (rounds + 1) descending before (name ++ text) =
      (segmentsAtMark nested inPredicate rounds (descending && name.isEmpty)
        (if name.isEmpty then before else .start) text).map
          (behind (segmentSteps descending name)) := by
  rw [segments, takeWhile_run hname htext, dropWhile_run hname htext]
  · simp only
    split
    next rest =>
      rw [segmentsAtMark]
      cases indexer nested (descending && name.isEmpty) rest with
      | error failure => rfl
      | ok found =>
          simp only [bind, Except.bind]
          cases segments nested inPredicate rounds false .indexer found.2.tail with
          | error failure => rfl
          | ok more => simp [Except.map, behind]
    next rest =>
      rw [segmentsAtMark]
      cases segments nested inPredicate rounds true .dot rest with
      | error failure => rfl
      | ok more => rfl
    next rest hdots =>
      rw [segmentsAtMark]
      · cases segments nested inPredicate rounds (descending && name.isEmpty) .dot rest with
        | error failure => rfl
        | ok more => rfl
      · exact hdots
    next hbracket hdots hdot =>
      rw [segmentsAtMark]
      · cases name with
        | nil =>
            simp only [List.isEmpty_nil, if_true, segmentSteps, endPath]
            split
            · rfl
            · rfl
        | cons c others => rfl
      · exact hbracket
      · exact hdots
      · exact hdot
  · intro c others hindexer hshape
    rw [takeWhile_run hname htext, hbefore hindexer] at hshape
    cases hshape

/-- Where no name stands in front, the reader is at a mark. -/
theorem segments_noName
    (htext : NoName inPredicate text) (rounds : Nat) (descending : Bool) (before : Before) :
    segments nested inPredicate (rounds + 1) descending before text =
      segmentsAtMark nested inPredicate rounds descending before text := by
  have hrun := @segments_run nested inPredicate text [] before (by simp) htext (fun _ => rfl)
    rounds descending
  rw [List.nil_append, List.isEmpty_nil, Bool.and_true, if_pos rfl] at hrun
  rw [hrun]
  cases segmentsAtMark nested inPredicate rounds descending before text with
  | error failure => rfl
  | ok read => rfl

/-- A name is a step of its own, and the reader goes on as at the start. -/
theorem segments_name
    {name : List Char} {before : Before}
    (hname : ∀ c ∈ name, isNameChar inPredicate c = true) (hnonempty : name ≠ [])
    (htext : NoName inPredicate text) (hbefore : before ≠ .indexer)
    (rounds : Nat) (descending : Bool) :
    segments nested inPredicate (rounds + 1) descending before (name ++ text) =
      (segments nested inPredicate (rounds + 1) false .start text).map
        (behind [nameStep descending (dottedName name)]) := by
  have hisEmpty : name.isEmpty = false := by simp [hnonempty]
  rw [segments_run hname htext (fun h => absurd h hbefore), segments_noName htext]
  simp only [hisEmpty, segmentSteps, Bool.and_false, Bool.false_eq_true, if_false]

/-- Behind an indexer the reader goes on as at the start, unless a name follows. -/
theorem segments_indexer
    (htext : NoName inPredicate text) (rounds : Nat) (descending : Bool) :
    segments nested inPredicate rounds descending .indexer text =
      segments nested inPredicate rounds descending .start text := by
  cases rounds with
  | zero => rfl
  | succ rounds =>
      rw [segments_noName htext, segments_noName htext]
      unfold segmentsAtMark
      rfl

/-- A bracket is read by the reader of indexers, and what follows its closing
bracket by the reader of segments. -/
theorem segments_bracket
    {found : List Step} {rest : List Char} {descending : Bool}
    (hindexer : indexer nested descending text = .ok (found, ']' :: rest))
    (rounds : Nat) (before : Before) :
    segments nested inPredicate (rounds + 1) descending before ('[' :: text) =
      (segments nested inPredicate rounds false .indexer rest).map (behind found) := by
  have hname : NoName inPredicate ('[' :: text) := by simp [NoName, isNameChar]
  rw [segments_noName hname, segmentsAtMark, hindexer]
  rfl

/-- Two dots look at every depth. -/
theorem segments_dots
    (rounds : Nat) (descending : Bool) (before : Before) :
    segments nested inPredicate (rounds + 1) descending before ('.' :: '.' :: text) =
      segments nested inPredicate rounds true .dot text := by
  have hname : NoName inPredicate ('.' :: '.' :: text) := by simp [NoName, isNameChar]
  rw [segments_noName hname, segmentsAtMark]

/-- One dot is passed over. -/
theorem segments_dot
    (htext : text.head? ≠ some '.') (rounds : Nat) (descending : Bool) (before : Before) :
    segments nested inPredicate (rounds + 1) descending before ('.' :: text) =
      segments nested inPredicate rounds descending .dot text := by
  have hname : NoName inPredicate ('.' :: text) := by simp [NoName, isNameChar]
  rw [segments_noName hname, segmentsAtMark]
  intro rest hshape
  rw [hshape] at htext
  exact htext rfl

theorem head?_ne {c : Char} (h : ∀ rest, text = c :: rest → False) : text.head? ≠ some c := by
  intro hhead
  obtain ⟨rest, hshape⟩ := List.head?_eq_some_iff.1 hhead
  exact h rest hshape

/-- A path ends at what is neither a bracket nor a dot. -/
theorem segmentsAtMark_end
    (hbracket : text.head? ≠ some '[') (hdot : text.head? ≠ some '.')
    (rounds : Nat) (descending : Bool) (before : Before) :
    segmentsAtMark nested inPredicate rounds descending before text =
      endPath inPredicate before text := by
  rw [segmentsAtMark]
  · intro rest hshape
    rw [hshape] at hbracket
    exact hbracket rfl
  · intro rest hshape
    rw [hshape] at hdot
    exact hdot rfl
  · intro rest hshape
    rw [hshape] at hdot
    exact hdot rfl

/-- A path ends in front of a character that belongs to no segment, unless a dot is behind. -/
theorem segments_end
    (htext : NoName inPredicate text)
    (hbracket : text.head? ≠ some '[') (hdot : text.head? ≠ some '.')
    {before : Before} (hbefore : before ≠ .dot) (rounds : Nat) (descending : Bool) :
    segments nested inPredicate rounds descending before text = .ok ([], text) := by
  have hend : endPath inPredicate before text = .ok ([], text) := by
    rw [endPath, if_neg fun h => hbefore h.1]
  cases rounds with
  | zero => exact hend
  | succ rounds => rw [segments_noName htext, segmentsAtMark_end hbracket hdot, hend]

end Segments

end PathQuery.Path
