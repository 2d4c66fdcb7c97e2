import PathQuery.Proofs.Path.Calls
import PathQuery.Proofs.Path.Routines

/-!
# What routines leave

A routine that is called where its part of the text may begin has an answer, which is that
of the reader of the part.  If it reads a value, the cursor comes to an end of what was left
to read; the routines of brackets come to the closing one, and apart from paths and array
indexers every routine takes something off the text.
-/

namespace PathQuery.Path

/-! ## Readers that take something off -/

/-- If a reader leaves less than its whole text behind a value. -/
def Shortens {α : Type} (read : Reader α) : Prop :=
  ∀ ⦃text value left⦄, read text = .ok (value, left) → left.length < text.length

section Shortens

theorem readNumber_shortens : Shortens readNumber := by
  intro text value left h
  rw [readNumber] at h
  split at h
  next number hnumber =>
    obtain ⟨-, rfl⟩ := Prod.mk.inj (Except.ok.inj h)
    have htoken : 0 < (text.takeWhile isNumberChar).length := by
      apply List.length_pos_iff.2
      intro hnil
      have hempty : Number.ofText? [] = none := rfl
      rw [hnil, hempty] at hnumber
      contradiction
    have hlength := congrArg List.length
      (List.takeWhile_append_dropWhile (p := isNumberChar) (l := text))
    rw [List.length_append] at hlength
    omega
  next => contradiction

theorem readRegex_shortens : Shortens readRegex := by
  intro text value left h
  rw [readRegex] at h
  split at h
  next => contradiction
  next body rest hbody =>
    simp only at h
    split at h
    next =>
      obtain ⟨-, rfl⟩ := Prod.mk.inj (Except.ok.inj h)
      have hdrop := (List.dropWhile_suffix Char.isAlpha (l := rest)).length_le
      rw [regexBody_eq_some hbody, List.length_append, List.length_cons]
      omega
    next => contradiction

theorem readWord_shortens {word : List Char} (hword : word ≠ []) (value : Json) :
    Shortens (readWord word value) := by
  intro text side left h
  rw [readWord.eq_def] at h
  split at h
  next => contradiction
  next c rest =>
    have hpos := List.length_pos_iff.2 hword
    split at h
    · obtain ⟨-, rfl⟩ := Prod.mk.inj (Except.ok.inj h)
      rw [List.length_drop, List.length_cons]
      omega
    · contradiction

theorem skipInside_suffix {text left : List Char} (h : skipInside text = .ok left) :
    left <:+ text := by
  have hanchored := skipInside_anchored (List.suffix_rfl (l := text))
  rwa [h] at hanchored

theorem closeParenthesis_suffix {text left : List Char} (h : closeParenthesis text = .ok left) :
    left <:+ text := by
  have hanchored := closeParenthesis_anchored (List.suffix_rfl (l := text))
  rwa [h] at hanchored

variable {nested : Reader Condition} (hnested : AnchoredReader nested)

include hnested

theorem bareOperand_shortens : Shortens (bareOperand nested) := by
  intro text side left h
  cases text with
  | nil => contradiction
  | cons c rest =>
      rw [List.length_cons, Nat.lt_succ_iff]
      rw [bareOperand] at h
      split_ifs at h
      · exact ((operandPath_anchored hnested []).suffix h).length_le
      · exact ((operandPath_anchored hnested [.root]).suffix h).length_le
      · obtain ⟨⟨chars, behind⟩, hread, hshape⟩ := exists_of_map_ok h
        obtain ⟨-, rfl⟩ := Prod.mk.inj hshape
        exact (quoted_anchored.suffix hread).length_le
      · obtain ⟨⟨regex, behind⟩, hread, hshape⟩ := exists_of_map_ok h
        obtain ⟨-, rfl⟩ := Prod.mk.inj hshape
        exact (readRegex_shortens hread).le
      · obtain ⟨⟨number, behind⟩, hread, hshape⟩ := exists_of_map_ok h
        obtain ⟨-, rfl⟩ := Prod.mk.inj hshape
        exact Nat.lt_succ_iff.1 (readNumber_shortens hread)
      · exact Nat.lt_succ_iff.1 (readWord_shortens (by simp) _ h)
      · exact Nat.lt_succ_iff.1 (readWord_shortens (by simp) _ h)
      · exact Nat.lt_succ_iff.1 (readWord_shortens (by simp) _ h)
      · contradiction

theorem operand_shortens : Shortens (operand nested) := by
  intro text side left h
  rw [operand] at h
  obtain ⟨⟨side', behind⟩, hside, h⟩ := exists_of_bind_ok h
  obtain ⟨rest, hrest, h⟩ := exists_of_bind_ok h
  obtain ⟨-, rfl⟩ := Prod.mk.inj (Except.ok.inj h)
  calc rest.length
    _ ≤ behind.length := (skipInside_suffix hrest).length_le
    _ < (Text.skipBlanks text).length := bareOperand_shortens hnested hside
    _ ≤ text.length := Text.length_skipBlanks_le text

theorem term_shortens : Shortens (term nested) := by
  intro text condition left h
  rw [term] at h
  split at h
  next rest hopen =>
    obtain ⟨⟨inner, behind⟩, hinner, h⟩ := exists_of_bind_ok h
    obtain ⟨after, hafter, h⟩ := exists_of_bind_ok h
    obtain ⟨last, hlast, h⟩ := exists_of_bind_ok h
    obtain ⟨-, rfl⟩ := Prod.mk.inj (Except.ok.inj h)
    have hsuffix : last <:+ rest :=
      ((skipInside_suffix hlast).trans (closeParenthesis_suffix hafter)).trans
        (hnested.suffix hinner)
    exact hsuffix.length_le.trans_lt (suffix_of_skipBlanks List.suffix_rfl hopen).length_le
  next =>
    obtain ⟨⟨first, behind⟩, hfirst, h⟩ := exists_of_bind_ok h
    have hlength : behind.length < text.length :=
      (operand_shortens hnested hfirst).trans_le (Text.length_skipBlanks_le text)
    simp only at h
    split at h
    · obtain ⟨-, rfl⟩ := Prod.mk.inj (Except.ok.inj h)
      exact hlength
    · obtain ⟨⟨operator, side⟩, hoperator, h⟩ := exists_of_bind_ok h
      obtain ⟨⟨right, last⟩, hright, h⟩ := exists_of_bind_ok h
      obtain ⟨-, rfl⟩ := Prod.mk.inj (Except.ok.inj h)
      calc last.length
        _ < side.length := operand_shortens hnested hright
        _ ≤ behind.length := (readOperator_anchored.suffix hoperator).length_le
        _ < text.length := hlength

omit hnested in
theorem joined_shortens {item : Reader Condition} (hitem : Shortens item)
    (hanchored : AnchoredReader item) (mark : Char) (rounds : Nat) :
    Shortens (joined item mark rounds) := by
  intro text conditions left h
  cases rounds with
  | zero => contradiction
  | succ rounds =>
      rw [joined] at h
      obtain ⟨⟨first, behind⟩, hfirst, h⟩ := exists_of_bind_ok h
      have hlength : behind.length < text.length := hitem hfirst
      simp only at h
      split at h
      next =>
        obtain ⟨-, rfl⟩ := Prod.mk.inj (Except.ok.inj h)
        exact hlength
      next c after =>
        split_ifs at h
        · split at h
          next => contradiction
          next d more =>
            split_ifs at h
            · obtain ⟨⟨others, rest⟩, hothers, h⟩ := exists_of_bind_ok h
              obtain ⟨-, rfl⟩ := Prod.mk.inj (Except.ok.inj h)
              have htail : AnchoredReader (joined item mark rounds) := fun text =>
                joined_anchored hanchored mark rounds List.suffix_rfl
              calc rest.length
                _ ≤ more.length := (htail.suffix hothers).length_le
                _ ≤ (c :: d :: more).length := ((List.suffix_cons d more).trans
                  (List.suffix_cons c _)).length_le
                _ < text.length := hlength
            · contradiction
        · obtain ⟨-, rfl⟩ := Prod.mk.inj (Except.ok.inj h)
          exact hlength

theorem conjunction_shortens : Shortens (conjunction nested) := by
  intro text condition left h
  obtain ⟨⟨conditions, rest⟩, hread, hshape⟩ := exists_of_map_ok h
  obtain ⟨-, rfl⟩ := Prod.mk.inj hshape
  exact joined_shortens (term_shortens hnested) (term_anchored hnested) _ _ hread

theorem disjunction_shortens : Shortens (disjunction nested) := by
  intro text condition left h
  obtain ⟨⟨conditions, rest⟩, hread, hshape⟩ := exists_of_map_ok h
  obtain ⟨-, rfl⟩ := Prod.mk.inj hshape
  exact joined_shortens (conjunction_shortens hnested) (conjunction_anchored hnested) _ _ hread

end Shortens

theorem predicate_shortens (depth : Nat) : Shortens (predicate depth) := by
  cases depth with
  | zero =>
      intro text condition left h
      contradiction
  | succ depth => exact disjunction_shortens (predicate_anchored depth)

namespace Cursor

open Scan

/-! ## Where routines are called -/

/-- What stands where a routine is called, if `rest` is left of a text. -/
def Routine.Begins (text rest : List Char) : Routine → Bool → Prop
  | main, _ => rest = text
  | path, inPredicate => inPredicate = false → rest ≠ []
  | indexer, _ => ∃ after, rest = '[' :: after
  | array, _ => rest ≠ [] ∧ Text.skipBlanks rest = rest
  | names, _ | string, _ => ∃ after, rest = '\'' :: after
  | filter, _ => ∃ after, rest = '?' :: after
  | disjunction, _ | conjunction, _ | term, _ | operand, _ => True
  | number, _ => ∃ c after, rest = c :: after ∧ isIndexChar c = true
  | regex, _ => ∃ after, rest = '/' :: after

/-- A call at an end of a text where the part of its routine may begin. -/
structure Frame.Stands (text rest : List Char) (frame : Frame) : Prop where
  suffix : rest <:+ text
  place : frame.place = placeOf text rest
  begins : frame.routine.Begins text rest frame.flag

/-- The reader of the part that a routine reads, up to a depth of predicates. -/
def Routine.reader (depth : Nat) : (routine : Routine) → Bool → Reader routine.Value
  | main, _ => fun rest => (Path.readSteps rest).map fun steps => (steps, [])
  | path, inPredicate => fun rest =>
    Path.segments (Path.predicate depth) inPredicate rest.length false .start rest
  | indexer, descending => fun rest => Path.indexer (Path.predicate depth) descending rest.tail
  | array, _ => fun rest => Path.arrayIndexer rest.length .single rest
  | names, descending => fun rest =>
    (Path.quotedNames rest.length rest).map fun read => (namesStep descending read.1, read.2)
  | string, _ => fun rest => Path.quoted rest.tail
  | filter, descending => fun rest =>
    Path.filterIndexer (Path.predicate depth) descending rest.tail
  | disjunction, _ => Path.predicate (depth + 1)
  | conjunction, _ => Path.conjunction (Path.predicate depth)
  | term, _ => Path.term (Path.predicate depth)
  | operand, _ => Path.operand (Path.predicate depth)
  | number, _ => Path.readNumber
  | regex, _ => fun rest => Path.readRegex rest.tail

/-- If a routine takes something off the text whenever it reads a value. -/
def Routine.consumes : Routine → Bool
  | main | path | array => false
  | _ => true

/-- If a routine comes to a closing bracket. -/
def Routine.closes : Routine → Bool
  | indexer | array | names | filter => true
  | _ => false

/-- What a routine leaves of the text that it has to read. -/
structure Routine.Leaves (routine : Routine) (rest left : List Char) : Prop where
  suffix : left <:+ rest
  consumes : routine.consumes = true → left.length < rest.length
  closes : routine.closes = true → left.head? = some ']'

section Answers

variable {text rest left : List Char} {frame : Frame}

/-- The depth of the cursor is enough for the predicates in a text. -/
theorem nested_follows (text : List Char) :
    Follows text (predicate text (rounds text)) (Path.predicate text.length)
      (text.length + 1) := by
  intro rest hrest hbound
  have hrounds := length_lt_rounds (List.suffix_rfl (l := text))
  exact predicate_follows _ _ rest hrest (by omega)

/-- A routine answers what the reader of its part reads. -/
theorem Frame.Stands.answer_eq (h : frame.Stands text rest) :
    (routines text).answer frame =
      placed text (frame.routine.reader text.length frame.flag rest) := by
  obtain ⟨routine, flag, place⟩ := frame
  obtain ⟨hsuffix, rfl, hbegins⟩ := h
  have hfollows := nested_follows text
  have hnested := predicate_anchored text.length
  have hlength := hsuffix.length_le
  cases routine with
  | main =>
      obtain rfl : rest = text := hbegins
      exact placeOf_self rest ▸ readSteps_follows rest
  | path =>
      exact segments_follows hfollows hnested flag _ _ rest _ _ hsuffix (by omega)
        (Nat.le_refl _) (byteLength_lt_rounds hsuffix)
  | indexer =>
      obtain ⟨after, rfl⟩ := hbegins
      rw [List.length_cons] at hlength
      exact indexer_follows hfollows hnested flag hsuffix (by omega)
  | array =>
      exact arrayIndexer_follows hsuffix hbegins.2 (Nat.le_refl _) (length_lt_rounds hsuffix) _
  | names =>
      exact map_placed (quotedNames_follows hsuffix (Nat.le_refl _) (length_lt_rounds hsuffix))
  | string =>
      obtain ⟨after, rfl⟩ := hbegins
      have hafter := suffix_of_cons hsuffix
      have hquoted := quoted_follows hafter (length_lt_rounds hafter)
      rwa [← placeOf_ascii (by decide) hsuffix] at hquoted
  | filter =>
      obtain ⟨after, rfl⟩ := hbegins
      rw [List.length_cons] at hlength
      exact filterIndexer_follows hfollows hnested flag hsuffix (by omega)
  | disjunction =>
      have hrounds := length_lt_rounds hsuffix
      exact predicate_follows _ _ rest hsuffix (by omega)
  | conjunction => exact conjunction_follows hfollows hnested rest hsuffix (by omega)
  | term => exact term_follows hfollows hnested hsuffix (by omega)
  | operand => exact operand_follows hfollows hnested hsuffix (by omega)
  | number => exact readNumber_follows hsuffix
  | regex =>
      obtain ⟨after, rfl⟩ := hbegins
      exact readRegex_follows hsuffix

/-- Where its part may begin, a routine does what its body says, however deep its calls go. -/
theorem Frame.Stands.unfolds (h : frame.Stands text rest) :
    ((routines text).body text).answer frame = (routines text).answer frame := by
  obtain ⟨routine, flag, place⟩ := frame
  by_cases hroutine : routine = .disjunction
  · subst hroutine
    rw [h.answer_eq]
    obtain ⟨hsuffix, rfl, -⟩ := h
    have hlength := hsuffix.length_le
    exact disjunction_follows (nested_follows text) (predicate_anchored _) rest hsuffix (by omega)
  · exact congrFun (body_routines_of_ne hroutine flag) place

end Answers

/-! ## What they leave -/

section Leaves

variable {α : Type} {text rest left : List Char} {routine : Routine}

/-- What is read up to a bracket behind a first character. -/
theorem leaves_behind {c : Char} {after : List Char} {read : Except Failure (α × List Char)}
    (hanchored : Anchored after (fun read => ∃ behind, read.2 = ']' :: behind ∧ read.2 <:+ after)
      read) {value : α} (h : read = .ok (value, left)) : routine.Leaves (c :: after) left := by
  rw [h] at hanchored
  obtain ⟨behind, rfl, hsuffix⟩ := hanchored
  constructor
  · exact hsuffix.trans (List.suffix_cons c after)
  · intro _
    exact Nat.lt_succ_of_le hsuffix.length_le
  · intro _
    rfl

/-- What a reader leaves that takes something off its text. -/
theorem leaves_of_shortens {read : Reader α} (hanchored : AnchoredReader read)
    (hshortens : Shortens read) (hcloses : routine.closes = false) {value : α}
    (h : read rest = .ok (value, left)) : routine.Leaves rest left := by
  constructor
  · exact hanchored.suffix h
  · intro _
    exact hshortens h
  · intro hbracket
    exact absurd (hcloses.symm.trans hbracket) Bool.false_ne_true

/-- What the reader of a part leaves where the part may begin. -/
theorem Routine.leaves_of_reader {depth : Nat} {flag : Bool} {value : routine.Value}
    (hbegins : routine.Begins text rest flag)
    (h : routine.reader depth flag rest = .ok (value, left)) : routine.Leaves rest left := by
  have hnested := predicate_anchored depth
  cases routine with
  | main =>
      obtain ⟨steps, -, hshape⟩ := exists_of_map_ok h
      obtain ⟨-, rfl⟩ := Prod.mk.inj hshape
      exact ⟨List.nil_suffix, nofun, nofun⟩
  | path =>
      have hanchored : AnchoredReader (Routine.path.reader depth flag) := fun rest =>
        segments_anchored hnested flag rest.length false .start List.suffix_rfl
      exact ⟨hanchored.suffix h, nofun, nofun⟩
  | indexer =>
      obtain ⟨after, rfl⟩ := hbegins
      exact leaves_behind (indexer_anchored hnested flag List.suffix_rfl) h
  | array =>
      have hanchored := arrayIndexer_anchored rest.length .single (List.suffix_rfl (l := rest))
      obtain ⟨behind, rfl, hsuffix⟩ : ∃ behind, left = ']' :: behind ∧ left <:+ rest := by
        rwa [show Path.arrayIndexer rest.length .single rest = _ from h] at hanchored
      exact ⟨hsuffix, nofun, fun _ => rfl⟩
  | names =>
      obtain ⟨after, rfl⟩ := hbegins
      obtain ⟨read, hread, hshape⟩ := exists_of_map_ok h
      obtain ⟨-, rfl⟩ := Prod.mk.inj hshape
      have hanchored := quotedNames_anchored ('\'' :: after).length
        (List.suffix_rfl (l := '\'' :: after))
      rw [hread] at hanchored
      obtain ⟨behind, hbehind, hsuffix⟩ := hanchored
      have hafter : read.2 <:+ after := by
        apply (List.suffix_cons_iff.1 hsuffix).resolve_left
        intro hwhole
        exact absurd (hbehind.symm.trans hwhole) (by simp)
      exact ⟨hsuffix, fun _ => Nat.lt_succ_of_le hafter.length_le, fun _ => by rw [hbehind]; rfl⟩
  | string =>
      obtain ⟨after, rfl⟩ := hbegins
      have hsuffix := quoted_anchored.suffix h
      exact ⟨hsuffix.trans (List.suffix_cons _ _), fun _ => Nat.lt_succ_of_le hsuffix.length_le,
        nofun⟩
  | filter =>
      obtain ⟨after, rfl⟩ := hbegins
      exact leaves_behind (filterIndexer_anchored hnested flag List.suffix_rfl) h
  | disjunction =>
      exact leaves_of_shortens (predicate_anchored _) (predicate_shortens _) rfl h
  | conjunction =>
      exact leaves_of_shortens (conjunction_anchored hnested) (conjunction_shortens hnested) rfl h
  | term => exact leaves_of_shortens (term_anchored hnested) (term_shortens hnested) rfl h
  | operand =>
      exact leaves_of_shortens (operand_anchored hnested) (operand_shortens hnested) rfl h
  | number => exact leaves_of_shortens readNumber_anchored readNumber_shortens rfl h
  | regex =>
      obtain ⟨after, rfl⟩ := hbegins
      have hanchored := readRegex_anchored (List.suffix_rfl (l := '/' :: after))
      rw [show Path.readRegex after = _ from h] at hanchored
      have hlength : left.length < after.length := readRegex_shortens h
      exact ⟨hanchored, fun _ => Nat.lt_succ_of_lt hlength, nofun⟩

/-- The place behind a value that was read is that of what is left. -/
theorem exists_of_placed {outcome : Except Failure (α × List Char)} {value : α} {there : Nat}
    (h : placed text outcome = some (.ok (value, there))) :
    ∃ left, outcome = .ok (value, left) ∧ there = placeOf text left := by
  rcases outcome with failure | ⟨value', left⟩
  · exact nomatch h
  · obtain ⟨rfl, rfl⟩ := Prod.mk.inj (Except.ok.inj (Option.some.inj h))
    exact ⟨left, rfl, rfl⟩

/-- A routine that is called where its part may begin comes to an end of what it has to read. -/
theorem Frame.Stands.exists_left {frame : Frame} (h : frame.Stands text rest)
    {value : frame.routine.Value} {there : Nat}
    (hanswer : (routines text).answer frame = some (.ok (value, there))) :
    ∃ left, there = placeOf text left ∧ frame.routine.Leaves rest left := by
  rw [h.answer_eq] at hanswer
  obtain ⟨left, hread, hthere⟩ := exists_of_placed hanswer
  exact ⟨left, hthere, Routine.leaves_of_reader h.begins hread⟩

/-- So it never comes to a place before its own. -/
theorem Frame.Stands.place_le {frame : Frame} (h : frame.Stands text rest)
    {value : frame.routine.Value} {there : Nat}
    (hanswer : (routines text).answer frame = some (.ok (value, there))) :
    frame.place ≤ there := by
  obtain ⟨left, rfl, hleaves⟩ := h.exists_left hanswer
  rw [h.place]
  exact placeOf_mono text hleaves.suffix

end Leaves

end Cursor

end PathQuery.Path
