import Mathlib.Logic.Relation
import PathQuery.Proofs.Path.Concatenation
import PathQuery.Proofs.Path.Indexers
import PathQuery.Proofs.Path.Predicates

/-!
# Calls of readers

The readers of the grammar call one another, each on an end of its own text.  This module
names the readers and lists their calls, one constructor for each place where a reader is
called.  A call that fails makes its caller fail in the same way, and every call has less to
read than its caller or is further down in the grammar, so each failure comes from a reader
none of whose calls fails.
-/

namespace PathQuery.Path

/-! ## Constructs and calls -/

/-- A part of a path that has a reader, with what its reader is given besides the text. -/
inductive Construct
  | path
  | whole
  | segments (depth : Nat) (inPredicate : Bool) (rounds : Nat) (descending : Bool)
      (before : Before)
  | indexer (depth : Nat) (descending : Bool)
  | array (rounds : Nat)
  | names (rounds : Nat)
  | name
  | filter (depth : Nat) (descending : Bool)
  | predicate (depth : Nat)
  | conditions (connective : Connective) (depth rounds : Nat)
  | term (depth : Nat)
  | operand (depth : Nat)
  | string
  | number
  | regex
  | operator

/-- A construct and the text that its reader is called on. -/
structure Call where
  construct : Construct
  text : List Char

/-- The mark that stands doubled between conditions. -/
def markOf : Connective → Char
  | .and => '&'
  | .or => '|'

/-- The reader of the conditions that a connective joins. -/
def itemReader (nested : Reader Condition) : Connective → Reader Condition
  | .and => term nested
  | .or => conjunction nested

/-- What is left behind the value that was read. -/
def remainder {α : Type} (result : Except Failure (α × List Char)) :
    Except Failure (List Char) :=
  result.map (·.2)

/-- What a call leaves of its text; a path text is read to its end. -/
def Call.read : Call → Except Failure (List Char)
  | ⟨.path, text⟩ => (readSteps text).map fun _ => []
  | ⟨.whole, text⟩ => (wholePath text).map fun _ => []
  | ⟨.segments depth inPredicate rounds descending before, text⟩ =>
    remainder (segments (predicate depth) inPredicate rounds descending before text)
  | ⟨.indexer depth descending, text⟩ => remainder (indexer (predicate depth) descending text)
  | ⟨.array rounds, text⟩ => remainder (arrayIndexer rounds .single text)
  | ⟨.names rounds, text⟩ => remainder (quotedNames rounds text)
  | ⟨.name, text⟩ => remainder (quoted text)
  | ⟨.filter depth descending, text⟩ =>
    remainder (filterIndexer (predicate depth) descending text)
  | ⟨.predicate depth, text⟩ => remainder (predicate depth text)
  | ⟨.conditions connective depth rounds, text⟩ =>
    remainder (joined (itemReader (predicate depth) connective) (markOf connective) rounds text)
  | ⟨.term depth, text⟩ => remainder (term (predicate depth) text)
  | ⟨.operand depth, text⟩ => remainder (operand (predicate depth) text)
  | ⟨.string, text⟩ => remainder (quoted text)
  | ⟨.number, text⟩ => remainder (readNumber text)
  | ⟨.regex, text⟩ => remainder (readRegex text)
  | ⟨.operator, text⟩ => remainder (readOperator text)

/-- If the first call makes the second one.  A path begins behind its dollar sign, or with it
where it begins a name; a loop goes on with a call of itself. -/
inductive Calls : Call → Call → Prop
  | rooted {text rest : List Char} {c : Char} :
      Text.skipBlanks text = '$' :: c :: rest → c = '.' ∨ c = '[' →
      Calls ⟨.path, text⟩ ⟨.whole, c :: rest⟩
  | dollar {text rest : List Char} {c : Char} :
      Text.skipBlanks text = '$' :: c :: rest → c ≠ '.' → c ≠ '[' → Text.isBlank c = false →
      Calls ⟨.path, text⟩ ⟨.whole, '$' :: c :: rest⟩
  | unrooted {text rest : List Char} {c : Char} :
      Text.skipBlanks text = c :: rest → c ≠ '$' → Calls ⟨.path, text⟩ ⟨.whole, c :: rest⟩
  | segments {text : List Char} :
      Calls ⟨.whole, text⟩ ⟨.segments text.length false text.length false .start, text⟩
  | bracket {depth rounds : Nat} {inPredicate descending : Bool} {before : Before}
      {name rest : List Char} :
      (∀ c ∈ name, isNameChar inPredicate c = true) → (before = .indexer → name = []) →
      Calls ⟨.segments depth inPredicate (rounds + 1) descending before, name ++ '[' :: rest⟩
        ⟨.indexer depth (descending && name.isEmpty), rest⟩
  | behindBracket {depth rounds : Nat} {inPredicate descending : Bool} {before : Before}
      {name rest left : List Char} {steps : List Step} :
      (∀ c ∈ name, isNameChar inPredicate c = true) → (before = .indexer → name = []) →
      Path.indexer (Path.predicate depth) (descending && name.isEmpty) rest = .ok (steps, left) →
      Calls ⟨.segments depth inPredicate (rounds + 1) descending before, name ++ '[' :: rest⟩
        ⟨.segments depth inPredicate rounds false .indexer, left.tail⟩
  | dots {depth rounds : Nat} {inPredicate descending : Bool} {before : Before}
      {name rest : List Char} :
      (∀ c ∈ name, isNameChar inPredicate c = true) → (before = .indexer → name = []) →
      Calls
        ⟨.segments depth inPredicate (rounds + 1) descending before, name ++ '.' :: '.' :: rest⟩
        ⟨.segments depth inPredicate rounds true .dot, rest⟩
  | dot {depth rounds : Nat} {inPredicate descending : Bool} {before : Before}
      {name rest : List Char} :
      (∀ c ∈ name, isNameChar inPredicate c = true) → (before = .indexer → name = []) →
      rest.head? ≠ some '.' →
      Calls ⟨.segments depth inPredicate (rounds + 1) descending before, name ++ '.' :: rest⟩
        ⟨.segments depth inPredicate rounds (descending && name.isEmpty) .dot, rest⟩
  | names {depth : Nat} {descending : Bool} {text rest : List Char} :
      Text.skipBlanks text = '\'' :: rest →
      Calls ⟨.indexer depth descending, text⟩ ⟨.names (rest.length + 1), '\'' :: rest⟩
  | filter {depth : Nat} {descending : Bool} {text rest : List Char} :
      Text.skipBlanks text = '?' :: rest →
      Calls ⟨.indexer depth descending, text⟩ ⟨.filter depth descending, rest⟩
  | array {depth : Nat} {descending : Bool} {text rest : List Char} {c : Char} :
      Text.skipBlanks text = c :: rest → c ≠ '\'' → c ≠ '?' →
      Calls ⟨.indexer depth descending, text⟩ ⟨.array (c :: rest).length, c :: rest⟩
  | name {rounds : Nat} {rest : List Char} :
      Calls ⟨.names (rounds + 1), '\'' :: rest⟩ ⟨.name, rest⟩
  | nextName {rounds : Nat} {chars rest left more : List Char} :
      quoted rest = .ok (chars, left) → Text.skipBlanks left = ',' :: more →
      Calls ⟨.names (rounds + 1), '\'' :: rest⟩ ⟨.names rounds, Text.skipBlanks more⟩
  | predicate {depth : Nat} {descending : Bool} {rest : List Char} :
      Calls ⟨.filter depth descending, '(' :: rest⟩ ⟨.predicate depth, rest⟩
  | disjunction {depth : Nat} {text : List Char} :
      Calls ⟨.predicate (depth + 1), text⟩ ⟨.conditions .or depth text.length, text⟩
  | conjunction {depth rounds : Nat} {text : List Char} :
      Calls ⟨.conditions .or depth (rounds + 1), text⟩ ⟨.conditions .and depth text.length, text⟩
  | term {depth rounds : Nat} {text : List Char} :
      Calls ⟨.conditions .and depth (rounds + 1), text⟩ ⟨.term depth, text⟩
  | nextCondition {connective : Connective} {depth rounds : Nat} {text more : List Char}
      {condition : Condition} :
      itemReader (Path.predicate depth) connective text =
        .ok (condition, markOf connective :: markOf connective :: more) →
      Calls ⟨.conditions connective depth (rounds + 1), text⟩
        ⟨.conditions connective depth rounds, more⟩
  | group {depth : Nat} {text rest : List Char} :
      Text.skipBlanks text = '(' :: rest → Calls ⟨.term depth, text⟩ ⟨.predicate depth, rest⟩
  | left {depth : Nat} {text : List Char} :
      (Text.skipBlanks text).head? ≠ some '(' → Calls ⟨.term depth, text⟩ ⟨.operand depth, text⟩
  | operator {depth : Nat} {text rest : List Char} {side : Operand} :
      (Text.skipBlanks text).head? ≠ some '(' →
      Path.operand (Path.predicate depth) text = .ok (side, rest) →
      rest.head?.any endsComparison = false →
      Calls ⟨.term depth, text⟩ ⟨.operator, rest⟩
  | right {depth : Nat} {text rest behind : List Char} {side : Operand} {sign : Operator} :
      (Text.skipBlanks text).head? ≠ some '(' →
      Path.operand (Path.predicate depth) text = .ok (side, rest) →
      rest.head?.any endsComparison = false → readOperator rest = .ok (sign, behind) →
      Calls ⟨.term depth, text⟩ ⟨.operand depth, behind⟩
  | operandPath {depth : Nat} {text rest : List Char} {c : Char} :
      Text.skipBlanks text = c :: rest → c = '@' ∨ c = '$' →
      Calls ⟨.operand depth, text⟩ ⟨.segments depth true rest.length false .start, rest⟩
  | string {depth : Nat} {text rest : List Char} :
      Text.skipBlanks text = '\'' :: rest → Calls ⟨.operand depth, text⟩ ⟨.string, rest⟩
  | number {depth : Nat} {text rest : List Char} {c : Char} :
      Text.skipBlanks text = c :: rest → isIndexChar c = true →
      Calls ⟨.operand depth, text⟩ ⟨.number, c :: rest⟩
  | regex {depth : Nat} {text rest : List Char} :
      Text.skipBlanks text = '/' :: rest → Calls ⟨.operand depth, text⟩ ⟨.regex, rest⟩

/-! ## Failures -/

section Failures

variable {α β ε : Type}

theorem map_eq_error_iff {result : Except ε α} {f : α → β} {error : ε} :
    result.map f = .error error ↔ result = .error error := by
  cases result with
  | error found => simp [Except.map]
  | ok value => simp [Except.map]

theorem remainder_eq_error_iff {result : Except Failure (α × List Char)} {failure : Failure} :
    remainder result = .error failure ↔ result = .error failure :=
  map_eq_error_iff

end Failures

section Steps

variable {nested : Reader Condition} {text rest : List Char} {failure : Failure}

/-- The reader of segments fails at a mark where it fails behind the mark. -/
theorem segments_fails {inPredicate descending : Bool} {before : Before} {name : List Char}
    {rounds : Nat} (hname : ∀ c ∈ name, isNameChar inPredicate c = true)
    (htext : NoName inPredicate text) (hbefore : before = .indexer → name = [])
    (hfails : segmentsAtMark nested inPredicate rounds (descending && name.isEmpty)
      (if name.isEmpty then before else .start) text = .error failure) :
    segments nested inPredicate (rounds + 1) descending before (name ++ text) =
      .error failure := by
  rw [segments_run hname htext hbefore, hfails]
  rfl

theorem noName_mark {inPredicate : Bool} {c : Char} (hc : c = '[' ∨ c = '.') :
    NoName inPredicate (c :: text) := by
  rintro d ⟨⟩
  rcases hc with rfl | rfl
  · rfl
  · rfl

/-- The operand of a text is the one behind its blanks. -/
theorem operand_fails {c : Char} (hskip : Text.skipBlanks text = c :: rest)
    (hfails : bareOperand nested (c :: rest) = .error failure) :
    operand nested text = .error failure := by
  rw [operand, hskip, hfails]
  rfl

end Steps

/-- A call that fails makes its caller fail in the same way. -/
theorem Calls.fails {caller callee : Call} {failure : Failure} (h : Calls caller callee)
    (hfails : callee.read = .error failure) : caller.read = .error failure := by
  cases h with
  | rooted hskip hc =>
      simp only [Call.read, map_eq_error_iff] at hfails ⊢
      rw [readSteps, hskip]
      simp only [if_pos hc]
      exact hfails
  | dollar hskip hdot hbracket hblank =>
      simp only [Call.read, map_eq_error_iff] at hfails ⊢
      rw [readSteps, hskip]
      simp only [hdot, hbracket, hblank, or_self, Bool.false_eq_true, if_false]
      exact hfails
  | unrooted hskip hc =>
      simp only [Call.read, map_eq_error_iff] at hfails ⊢
      rw [readSteps_of_ne hskip hc]
      exact hfails
  | segments =>
      rw [Call.read, remainder_eq_error_iff] at hfails
      rw [Call.read, map_eq_error_iff, wholePath, hfails]
      rfl
  | bracket hname hbefore =>
      simp only [Call.read, remainder_eq_error_iff] at hfails ⊢
      refine segments_fails hname (noName_mark (.inl rfl)) hbefore ?_
      rw [segmentsAtMark, hfails]
      rfl
  | behindBracket hname hbefore hindexer =>
      simp only [Call.read, remainder_eq_error_iff] at hfails ⊢
      refine segments_fails hname (noName_mark (.inl rfl)) hbefore ?_
      rw [segmentsAtMark, hindexer]
      simp only [bind, Except.bind, hfails]
      rfl
  | dots hname hbefore =>
      simp only [Call.read, remainder_eq_error_iff] at hfails ⊢
      refine segments_fails hname (noName_mark (.inr rfl)) hbefore ?_
      rw [segmentsAtMark, hfails]
  | dot hname hbefore hrest =>
      simp only [Call.read, remainder_eq_error_iff] at hfails ⊢
      refine segments_fails hname (noName_mark (.inr rfl)) hbefore ?_
      rw [segmentsAtMark, hfails]
      rintro more rfl
      exact hrest rfl
  | names hskip =>
      simp only [Call.read, remainder_eq_error_iff] at hfails ⊢
      rw [indexer, hskip]
      simp only [hfails]
      rfl
  | filter hskip =>
      simp only [Call.read, remainder_eq_error_iff] at hfails ⊢
      rw [indexer, hskip]
      simp only [hfails]
      rfl
  | array hskip hquote hquery =>
      simp only [Call.read, remainder_eq_error_iff] at hfails ⊢
      rw [indexer_other hskip hquote hquery, hfails]
      rfl
  | name =>
      simp only [Call.read, remainder_eq_error_iff] at hfails ⊢
      rw [quotedNames, if_pos rfl, hfails]
      rfl
  | nextName hname hskip =>
      simp only [Call.read, remainder_eq_error_iff] at hfails ⊢
      rw [quotedNames, if_pos rfl, hname]
      simp only [bind, Except.bind, hskip, hfails]
  | predicate =>
      simp only [Call.read, remainder_eq_error_iff] at hfails ⊢
      rw [filterIndexer, hfails]
      rfl
  | disjunction =>
      simp only [Call.read, remainder_eq_error_iff] at hfails ⊢
      exact map_eq_error_iff.2 hfails
  | conjunction =>
      simp only [Call.read, remainder_eq_error_iff] at hfails ⊢
      have hitem : Path.conjunction (Path.predicate _) _ = .error failure :=
        map_eq_error_iff.2 hfails
      rw [joined, itemReader, hitem]
      rfl
  | term =>
      simp only [Call.read, remainder_eq_error_iff] at hfails ⊢
      rw [joined, itemReader, hfails]
      rfl
  | nextCondition hitem =>
      simp only [Call.read, remainder_eq_error_iff] at hfails ⊢
      rw [joined, hitem]
      simp only [bind, Except.bind, if_pos, hfails]
  | group hskip =>
      simp only [Call.read, remainder_eq_error_iff] at hfails ⊢
      rw [Path.term, hskip]
      simp only [hfails]
      rfl
  | left hopen =>
      simp only [Call.read, remainder_eq_error_iff] at hfails ⊢
      rw [term_comparison hopen, hfails]
      rfl
  | operator hopen hleft hends =>
      simp only [Call.read, remainder_eq_error_iff] at hfails ⊢
      rw [term_comparison hopen, hleft]
      simp only [bind, Except.bind, hends, Bool.false_eq_true, if_false, hfails]
  | right hopen hleft hends hsign =>
      simp only [Call.read, remainder_eq_error_iff] at hfails ⊢
      rw [term_comparison hopen, hleft]
      simp only [bind, Except.bind, hends, Bool.false_eq_true, if_false, hsign, hfails]
  | operandPath hskip hc =>
      simp only [Call.read, remainder_eq_error_iff] at hfails ⊢
      refine operand_fails hskip ?_
      rcases hc with rfl | rfl
      · exact map_eq_error_iff.2 hfails
      · exact map_eq_error_iff.2 hfails
  | string hskip =>
      simp only [Call.read, remainder_eq_error_iff] at hfails ⊢
      exact operand_fails hskip (map_eq_error_iff.2 hfails)
  | number hskip hc =>
      simp only [Call.read, remainder_eq_error_iff] at hfails ⊢
      refine operand_fails hskip ?_
      rw [bareOperand_number hc, hfails]
      rfl
  | regex hskip =>
      simp only [Call.read, remainder_eq_error_iff] at hfails ⊢
      exact operand_fails hskip (map_eq_error_iff.2 hfails)

/-! ## The order of calls -/

/-- How far a construct is above the bottom of the grammar, where the text is the same. -/
def Construct.rank : Construct → Nat
  | .predicate _ => 5
  | .conditions .or _ _ => 4
  | .conditions .and _ _ => 3
  | .path | .term _ => 2
  | .whole | .indexer _ _ | .operand _ => 1
  | _ => 0

theorem Construct.rank_lt (construct : Construct) : construct.rank < 6 := by
  rw [Construct.rank.eq_def]
  split
  all_goals omega

theorem itemReader_anchored {nested : Reader Condition} (hnested : AnchoredReader nested)
    (connective : Connective) : AnchoredReader (itemReader nested connective) := by
  cases connective with
  | and => exact term_anchored hnested
  | or => exact conjunction_anchored hnested

/-- What an anchored reader leaves is an end of its text. -/
theorem AnchoredReader.suffix {α : Type} {read : Reader α} (hread : AnchoredReader read)
    {text rest : List Char} {value : α} (h : read text = .ok (value, rest)) : rest <:+ text := by
  have hanchored := hread text
  rwa [h] at hanchored

/-- What stands behind the first character of an end of a text is shorter than the text. -/
theorem shorter_of_suffix {text whole : List Char} {c : Char} {rank rank' : Nat}
    (h : c :: text <:+ whole) :
    text <:+ whole ∧ (text.length < whole.length ∨ rank < rank') :=
  ⟨suffix_of_cons h, .inl h.length_le⟩

/-- A call is made on less text than its caller has, or on no more and further down in the
grammar. -/
theorem Calls.descends {caller callee : Call} (h : Calls caller callee) :
    callee.text <:+ caller.text ∧
      (callee.text.length < caller.text.length ∨
        callee.construct.rank < caller.construct.rank) := by
  cases h with
  | rooted hskip _ =>
      have hdollar := suffix_of_skipBlanks List.suffix_rfl hskip
      exact ⟨suffix_of_cons hdollar, .inr Nat.one_lt_two⟩
  | dollar hskip _ _ _ => exact ⟨suffix_of_skipBlanks List.suffix_rfl hskip, .inr Nat.one_lt_two⟩
  | unrooted hskip _ => exact ⟨suffix_of_skipBlanks List.suffix_rfl hskip, .inr Nat.one_lt_two⟩
  | segments => exact ⟨List.suffix_rfl, .inr Nat.zero_lt_one⟩
  | bracket _ _ => exact shorter_of_suffix (List.suffix_append _ _)
  | @behindBracket depth _ _ descending _ name rest left _ _ _ hindexer =>
      have hrest : '[' :: rest <:+ name ++ '[' :: rest := List.suffix_append _ _
      have hanchored := indexer_anchored (predicate_anchored depth) (descending && name.isEmpty)
        (suffix_of_cons hrest)
      rw [hindexer] at hanchored
      obtain ⟨after, rfl, hleft⟩ := hanchored
      exact shorter_of_suffix hleft
  | dots _ _ => exact shorter_of_suffix (suffix_of_cons (List.suffix_append _ _))
  | dot _ _ _ => exact shorter_of_suffix (List.suffix_append _ _)
  | names hskip => exact ⟨suffix_of_skipBlanks List.suffix_rfl hskip, .inr Nat.zero_lt_one⟩
  | filter hskip => exact shorter_of_suffix (suffix_of_skipBlanks List.suffix_rfl hskip)
  | array hskip _ _ => exact ⟨suffix_of_skipBlanks List.suffix_rfl hskip, .inr Nat.zero_lt_one⟩
  | name => exact shorter_of_suffix List.suffix_rfl
  | @nextName _ _ rest _ more hname hskip =>
      have hleft := suffix_of_skipBlanks (quoted_anchored.suffix hname) hskip
      have hmore : Text.skipBlanks more <:+ rest := skipBlanks_suffix (suffix_of_cons hleft)
      exact ⟨hmore.trans (List.suffix_cons _ _), .inl (Nat.lt_succ_of_le hmore.length_le)⟩
  | predicate => exact shorter_of_suffix List.suffix_rfl
  | disjunction => exact ⟨List.suffix_rfl, .inr (Nat.lt_succ_self _)⟩
  | conjunction => exact ⟨List.suffix_rfl, .inr (Nat.lt_succ_self _)⟩
  | term => exact ⟨List.suffix_rfl, .inr (Nat.lt_succ_self _)⟩
  | nextCondition hitem =>
      have hmarks := (itemReader_anchored (predicate_anchored _) _).suffix hitem
      exact shorter_of_suffix (suffix_of_cons hmarks)
  | group hskip => exact shorter_of_suffix (suffix_of_skipBlanks List.suffix_rfl hskip)
  | left _ => exact ⟨List.suffix_rfl, .inr (Nat.lt_succ_self _)⟩
  | operator _ hleft _ =>
      exact ⟨(operand_anchored (predicate_anchored _)).suffix hleft, .inr Nat.zero_lt_two⟩
  | right _ hleft _ hsign =>
      have hrest := (operand_anchored (predicate_anchored _)).suffix hleft
      exact ⟨(readOperator_anchored.suffix hsign).trans hrest, .inr (Nat.lt_succ_self _)⟩
  | operandPath hskip _ => exact shorter_of_suffix (suffix_of_skipBlanks List.suffix_rfl hskip)
  | string hskip => exact shorter_of_suffix (suffix_of_skipBlanks List.suffix_rfl hskip)
  | number hskip _ => exact ⟨suffix_of_skipBlanks List.suffix_rfl hskip, .inr Nat.zero_lt_one⟩
  | regex hskip => exact shorter_of_suffix (suffix_of_skipBlanks List.suffix_rfl hskip)

/-- A call that is reached has an end of the text of the first one. -/
theorem suffix_of_reached {first last : Call} (h : Relation.ReflTransGen Calls first last) :
    last.text <:+ first.text := by
  induction h with
  | refl => exact List.suffix_rfl
  | tail _ hcall ih => exact hcall.descends.1.trans ih

/-- The work that a call is at most above the bottom of the grammar and the end of the text. -/
def Call.weight (call : Call) : Nat :=
  6 * call.text.length + call.construct.rank

theorem Calls.weight_lt {caller callee : Call} (h : Calls caller callee) :
    callee.weight < caller.weight := by
  obtain ⟨hsuffix, hless⟩ := h.descends
  have hlength := hsuffix.length_le
  have hrank := callee.construct.rank_lt
  rw [Call.weight, Call.weight]
  omega

/-- If none of the calls that a call makes fails. -/
def Call.Untroubled (call : Call) : Prop :=
  ∀ callee, Calls call callee → ∃ rest, callee.read = .ok rest

/-- If a call fails, and none of the calls that it makes. -/
def Call.Raises (call : Call) (failure : Failure) : Prop :=
  call.read = .error failure ∧ call.Untroubled

/-- A call that is reached and fails makes the first call fail in the same way. -/
theorem fails_of_reached {first last : Call} {failure : Failure}
    (h : Relation.ReflTransGen Calls first last) (hfails : last.read = .error failure) :
    first.read = .error failure := by
  induction h with
  | refl => exact hfails
  | tail _ hcall ih => exact ih (hcall.fails hfails)

/-- Every failure is raised by a call that is reached. -/
theorem exists_raises {call : Call} {failure : Failure} (h : call.read = .error failure) :
    ∃ origin, Relation.ReflTransGen Calls call origin ∧ origin.Raises failure := by
  by_cases hcallee : ∃ callee, Calls call callee ∧ ∃ fault, callee.read = .error fault
  · obtain ⟨callee, hcall, fault, hfails⟩ := hcallee
    obtain rfl : fault = failure := Except.error.inj ((hcall.fails hfails).symm.trans h)
    have hless := hcall.weight_lt
    obtain ⟨origin, hreached, hraises⟩ := exists_raises hfails
    exact ⟨origin, hreached.head hcall, hraises⟩
  · refine ⟨call, .refl, h, fun callee hcall => ?_⟩
    cases hread : callee.read with
    | error fault => exact absurd ⟨callee, hcall, fault, hread⟩ hcallee
    | ok rest => exact ⟨rest, rfl⟩
termination_by call.weight

end PathQuery.Path
