import PathQuery.Proofs.Path.CursorConstants
import PathQuery.Proofs.Path.Segments

/-!
# What a cursor reads in segments and predicates

Readers of the parts of a predicate are followed as far as the reader for the predicates
inside them is.  Those stand behind a parenthesis, so a cursor that follows the reader of
predicates in shorter texts follows the other readers in texts that are longer by one
character, and the depth of nesting grows with the length of the text.
-/

namespace PathQuery.Path

/-- If a cursor reads in the ends of a text what a reader reads there, as far as these are
shorter than a bound. -/
def Follows {α : Type} (text : List Char) (scan : Scan α) (read : Reader α) (bound : Nat) : Prop :=
  ∀ rest, rest <:+ text → rest.length < bound → scan (placeOf text rest) = placed text (read rest)

/-- If a cursor reads segments in the ends of a text as the reader does, as far as these
are within a bound and the rounds of both suffice. -/
def FollowsSegments (text : List Char) (scan : Scan Condition) (nested : Reader Condition)
    (inPredicate : Bool) (bound n rounds : Nat) : Prop :=
  ∀ rest descending before, rest <:+ text → rest.length ≤ bound → rest.length ≤ n →
    Text.byteLength rest < rounds →
    Cursor.segments text scan inPredicate rounds descending before (placeOf text rest)
        (placeOf text rest) =
      placed text (Path.segments nested inPredicate n descending before rest)

/-- A cursor that follows a reader of something without a value goes on behind it. -/
theorem bind_placed_unit {β : Type} {text : List Char} {scan : Scan Unit} {next : Unit → Scan β}
    {place : Nat} {outcome : Except Failure (List Char)} {whole : List Char}
    {good : List Char → Prop} {after : List Char → Except Failure (β × List Char)}
    (hscan : scan place = placed text (outcome.map fun rest => ((), rest)))
    (hgood : Anchored whole good outcome)
    (hnext : ∀ rest, good rest → next () (placeOf text rest) = placed text (after rest)) :
    (scan >>= next) place = placed text (outcome >>= after) := by
  cases outcome with
  | error failure => exact Scan.bind_of_error hscan
  | ok rest => exact (Scan.bind_of_ok hscan).trans (hnext rest hgood)

namespace Cursor

open Scan

/-! ## Bytes of names -/

section Names

variable {text rest : List Char} {inPredicate : Bool}

/-- What lies beyond the ASCII characters may belong to a name. -/
theorem isNameChar_of_wide {c : Char} (hc : 128 ≤ c.toNat) : isNameChar inPredicate c = true := by
  have hne : ∀ d : Char, d.toNat < 128 → (c == d) = false := by
    intro d hd
    refine beq_false_of_ne ?_
    rintro rfl
    omega
  have hblank : Text.isBlank c = false := by
    by_contra h
    have hascii := asciiKind_isBlank c (by simpa using h)
    omega
  simp only [isNameChar, hblank, hne '[' (by decide), hne ']' (by decide), hne ')' (by decide),
    hne '.' (by decide), hne '=' (by decide), hne '<' (by decide), hne '!' (by decide),
    hne '>' (by decide), hne '|' (by decide), hne '&' (by decide), Bool.or_self, Bool.and_false,
    Bool.not_false]

/-- A test for the end of a name may be made at the first byte. -/
theorem isNameChar_lead (c : Char) :
    isNameChar inPredicate (lead c) = isNameChar inPredicate c := by
  have hkind : AsciiKind fun c => !isNameChar inPredicate c := by
    intro c hc
    by_contra hwide
    simp [isNameChar_of_wide (Nat.not_lt.1 hwide)] at hc
  exact Bool.not_inj (hkind.lead c)

/-- The bytes of a character belong to a name if the character does. -/
theorem isNameChar_byte {c : Char} (hc : isNameChar inPredicate c = true) (rest : List Char)
    {inside : Nat} (hinside : inside < c.utf8Size) :
    ∃ b, byteAt (c :: rest) inside = some b ∧ isNameChar inPredicate b = true := by
  rcases Nat.lt_or_ge c.toNat 128 with hascii | hwide
  · rw [utf8Size_of_ascii hascii, Nat.lt_one_iff] at hinside
    rw [hinside]
    exact ⟨c, byteAt_ascii hascii rest, hc⟩
  · obtain ⟨b, hb, hle⟩ := byteAt_wide hwide rest hinside
    exact ⟨b, hb, isNameChar_of_wide hle⟩

theorem ne_of_isNameChar {c : Char} (hc : isNameChar inPredicate c = true) : c ≠ '[' ∧ c ≠ '.' := by
  constructor
  · rintro rfl
    simp [isNameChar] at hc
  · rintro rfl
    simp [isNameChar] at hc

variable {scan : Scan Condition} {before : Before}

/-- The cursor moves through the bytes of a character of a name. -/
theorem segments_inside {c : Char} (hc : isNameChar inPredicate c = true) (h : c :: rest <:+ text)
    (hbefore : before ≠ .indexer) (descending : Bool) (start rounds : Nat) {inside further : Nat}
    (hsize : inside + further = c.utf8Size) :
    Cursor.segments text scan inPredicate (further + rounds) descending before start
        (placeOf text (c :: rest) + inside) =
      Cursor.segments text scan inPredicate rounds descending before start (placeOf text rest) := by
  induction further generalizing inside with
  | zero =>
      rw [Nat.add_zero] at hsize
      rw [Nat.zero_add, hsize, placeOf_cons h]
  | succ further ih =>
      obtain ⟨b, hb, hname⟩ := @isNameChar_byte inPredicate c hc rest inside (by omega)
      rw [← byteAt_placeOf h] at hb
      have hpeek : peek text (placeOf text (c :: rest) + inside) =
          some (.ok (some b, placeOf text (c :: rest) + inside)) := by
        rw [peek, hb]
      obtain ⟨hbracket, hdot⟩ := ne_of_isNameChar hname
      rw [Nat.add_right_comm, Cursor.segments, place_bind, bind_of_ok hpeek]
      simp only [hname, if_true]
      rw [if_neg hbracket, if_neg hdot, if_neg hbefore, skip_bind, Nat.add_assoc]
      exact ih (by omega)

/-- The cursor moves through a name. -/
theorem segments_through {name : List Char} (hname : ∀ c ∈ name, isNameChar inPredicate c = true)
    (h : name ++ rest <:+ text) (hbefore : before = .indexer → name = []) (descending : Bool)
    (start rounds : Nat) :
    Cursor.segments text scan inPredicate (Text.byteLength name + rounds) descending before start
        (placeOf text (name ++ rest)) =
      Cursor.segments text scan inPredicate rounds descending before start (placeOf text rest) := by
  induction name with
  | nil => rw [Text.byteLength_nil, Nat.zero_add, List.nil_append]
  | cons c name ih =>
      obtain ⟨hc, hname⟩ := List.forall_mem_cons.1 hname
      have hbefore : before ≠ .indexer := fun hindexer => List.cons_ne_nil c name (hbefore hindexer)
      rw [Text.byteLength_cons, Nat.add_assoc]
      exact (segments_inside hc h hbefore descending start _ (Nat.zero_add _)).trans
        (ih hname (suffix_of_cons h) fun hindexer => absurd hindexer hbefore)

/-- The name that ends at the cursor is a step, unless it is empty. -/
theorem pendingName_follows {name : List Char} (h : name ++ rest <:+ text) (descending : Bool) :
    Cursor.pendingName text descending (placeOf text (name ++ rest)) (placeOf text rest) =
      some (.ok (segmentSteps descending name, placeOf text rest)) := by
  rw [Cursor.pendingName, place_bind, segmentSteps]
  cases name with
  | nil =>
      rw [List.nil_append, if_neg (Nat.lt_irrefl _), List.isEmpty_nil, if_pos rfl, pure_run]
  | cons c name =>
      rw [if_pos (placeOf_lt h), bind_of_ok (cut_token h _), List.isEmpty_cons,
        if_neg Bool.false_ne_true, pure_run]

/-- A name is empty if it begins where the cursor stands. -/
theorem beq_placeOf {name : List Char} (h : name ++ rest <:+ text) :
    (placeOf text (name ++ rest) == placeOf text rest) = name.isEmpty := by
  cases name with
  | nil => simp
  | cons c name =>
      refine beq_false_of_ne fun hplace => ?_
      exact absurd (eq_nil_of_placeOf_eq h hplace.ge) (List.cons_ne_nil c name)

end Names

/-! ## Indexers and segments -/

section Nested

variable {text rest : List Char} {scan : Scan Condition} {nested : Reader Condition} {bound : Nat}
  (hfollows : Follows text scan nested bound) (hnested : AnchoredReader nested)

include hfollows hnested

theorem filterIndexer_follows (descending : Bool) (h : '?' :: rest <:+ text)
    (hbound : rest.length ≤ bound) :
    Cursor.filterIndexer text scan descending (placeOf text ('?' :: rest)) =
      placed text (Path.filterIndexer nested descending rest) := by
  have hrest := suffix_of_cons h
  rw [Cursor.filterIndexer, skip_bind, placeOf_ascii (by decide) h]
  cases rest with
  | nil =>
      rw [bind_of_ok peek_nil]
      rfl
  | cons c after =>
      have hafter := suffix_of_cons hrest
      rw [bind_of_ok (peek_cons hrest)]
      simp (disch := decide) only [lead_eq_iff]
      by_cases hopen : c = '('
      · subst hopen
        rw [if_pos rfl, skip_bind, placeOf_ascii (by decide) hrest, Path.filterIndexer]
        refine bind_placed (hfollows after hafter hbound) (hnested after) ?_
        intro condition left hleft
        have hleft : left <:+ text := hleft.trans hafter
        refine bind_placed_unit (closeParenthesis_follows hleft)
          (closeParenthesis_anchored hleft) ?_
        intro left hleft
        generalize (if descending then Step.descendFilter condition else Step.filter condition) =
          step
        rw [bind_of_ok (skipBlanks_follows hleft)]
        split
        next heq =>
          rw [heq, bind_of_ok peek_nil]
          rfl
        next behind heq =>
          rw [heq, bind_of_ok (peek_ascii (by decide) (suffix_of_skipBlanks hleft heq))]
          rfl
        next c behind hclose heq =>
          have hmark := suffix_of_skipBlanks hleft heq
          rw [heq, bind_of_ok (peek_cons hmark)]
          simp (disch := decide) only [lead_eq_iff]
          rw [if_neg hclose]
          exact unexpected_cons _ hmark
      · rw [if_neg hopen, Path.filterIndexer]
        · exact unexpected_cons _ hrest
        · exact hopen

theorem indexer_follows (descending : Bool) (h : '[' :: rest <:+ text)
    (hbound : rest.length ≤ bound) :
    Cursor.indexer text scan descending (placeOf text ('[' :: rest)) =
      placed text (Path.indexer nested descending rest) := by
  have hrest := suffix_of_cons h
  have hskip := skipBlanks_suffix hrest
  have hlength := Text.length_skipBlanks_le rest
  rw [Path.indexer]
  split
  next heq =>
    rw [Cursor.indexer, skip_bind, placeOf_ascii (by decide) h,
      bind_of_ok (skipBlanks_follows hrest), heq, bind_of_ok peek_nil]
    rfl
  next after heq =>
    rw [heq] at hskip
    rw [Cursor.indexer, skip_bind, placeOf_ascii (by decide) h,
      bind_of_ok (skipBlanks_follows hrest), heq, bind_of_ok (peek_ascii (by decide) hskip)]
    exact map_placed (quotedNames_follows hskip (Nat.le_refl _) (length_lt_rounds hskip))
  next after heq =>
    rw [heq] at hskip
    rw [heq, List.length_cons] at hlength
    rw [Cursor.indexer, skip_bind, placeOf_ascii (by decide) h,
      bind_of_ok (skipBlanks_follows hrest), heq, bind_of_ok (peek_ascii (by decide) hskip)]
    exact map_placed (filterIndexer_follows hfollows hnested descending hskip (by omega))
  next hnil hquote hquery =>
    have harray := arrayIndexer_follows hskip (Text.skipBlanks_skipBlanks rest) (Nat.le_refl _)
      (length_lt_rounds hskip) .single
    obtain ⟨c, after, heq⟩ := List.exists_cons_of_ne_nil hnil
    rw [heq] at hskip harray ⊢
    have hquote : c ≠ '\'' := by
      rintro rfl
      exact hquote after heq
    have hquery : c ≠ '?' := by
      rintro rfl
      exact hquery after heq
    rw [Cursor.indexer, skip_bind, placeOf_ascii (by decide) h,
      bind_of_ok (skipBlanks_follows hrest), heq, bind_of_ok (peek_cons hskip)]
    simp (disch := decide) only [lead_eq_iff]
    rw [if_neg hquote, if_neg hquery, place_bind]
    exact map_placed harray

omit hfollows hnested in
theorem endPath_follows (inPredicate descending : Bool) (before : Before) {name : List Char}
    (h : name ++ rest <:+ text) :
    Cursor.endPath text inPredicate descending before (placeOf text (name ++ rest))
        (placeOf text rest) =
      placed text (if name.isEmpty then Path.endPath inPredicate before rest
        else .ok (segmentSteps descending name, rest)) := by
  have hrest : rest <:+ text := (List.suffix_append name rest).trans h
  have hend : (peek text >>= fun c => if before = .dot ∧ (c.isNone ∨ inPredicate) then
      fail .unexpectedEnd else pure []) (placeOf text rest) =
      placed text (Path.endPath inPredicate before rest) := by
    rw [Path.endPath]
    cases rest with
    | nil =>
        rw [bind_of_ok peek_nil]
        simp only [Option.isNone_none, List.isEmpty_nil]
        split_ifs
        · rfl
        · rfl
    | cons c rest =>
        rw [bind_of_ok (peek_cons hrest)]
        simp only [Option.isNone_some, List.isEmpty_cons, Bool.false_eq_true]
        split_ifs
        · rfl
        · rfl
  have hpending := pendingName_follows h descending
  rw [Cursor.endPath, place_bind]
  cases name with
  | nil =>
      rw [List.nil_append, if_neg (Nat.lt_irrefl _), List.isEmpty_nil, if_pos rfl]
      exact hend
  | cons c name =>
      rw [if_pos (placeOf_lt h), hpending, List.isEmpty_cons, if_neg Bool.false_ne_true]
      rfl

section Marks

variable {inPredicate : Bool} {n rounds : Nat} {name : List Char}

omit hfollows hnested in
/-- A name directly behind an indexer is refused at its first character. -/
theorem nameBehindIndexer_follows {c : Char} (hc : isNameChar inPredicate c = true)
    (h : c :: rest <:+ text) (descending : Bool) (start : Nat) :
    Cursor.segments text scan inPredicate (rounds + 1) descending .indexer start
        (placeOf text (c :: rest)) =
      placed text (failAt (.unexpectedAfterIndexer c) (c :: rest)) := by
  rw [← isNameChar_lead] at hc
  obtain ⟨hbracket, hdot⟩ := ne_of_isNameChar hc
  rw [Cursor.segments, place_bind, bind_of_ok (peek_cons h)]
  simp only [hc, if_true]
  rw [if_neg hbracket, if_neg hdot, bind_of_ok (current_cons h)]
  rfl

/-- At a bracket the name before it is a step, and an indexer follows. -/
theorem bracket_follows (hnext : FollowsSegments text scan nested inPredicate bound n rounds)
    (h : name ++ '[' :: rest <:+ text) (hbound : rest.length ≤ bound) (hn : rest.length ≤ n)
    (hrounds : Text.byteLength rest < rounds) (descending : Bool) (before : Before) :
    Cursor.segments text scan inPredicate (rounds + 1) descending before
        (placeOf text (name ++ '[' :: rest)) (placeOf text ('[' :: rest)) =
      placed text (Path.indexer nested (descending && name.isEmpty) rest >>= fun found =>
        (Path.segments nested inPredicate n false .indexer found.2.tail).map
          (behind (segmentSteps descending name ++ found.1))) := by
  have hmark : '[' :: rest <:+ text := (List.suffix_append name _).trans h
  have hrest := suffix_of_cons hmark
  rw [Cursor.segments, place_bind, bind_of_ok (peek_ascii (by decide) hmark)]
  simp only [if_true]
  rw [bind_of_ok (pendingName_follows h descending), beq_placeOf h]
  refine bind_placed (indexer_follows hfollows hnested _ hmark hbound)
    (indexer_anchored hnested _ List.suffix_rfl) ?_
  rintro found left ⟨after, rfl, hleft⟩
  have hclose := hleft.trans hrest
  have hlength := (suffix_of_cons hleft).length_le
  have hbytes := byteLength_le_of_suffix (suffix_of_cons hleft)
  rw [skip_bind, placeOf_ascii (by decide) hclose, place_bind]
  exact map_placed (hnext after _ _ (suffix_of_cons hclose) (by omega) (by omega) (by omega))

omit hfollows hnested in
/-- At two dots the name before them is a step, and the search goes to every depth. -/
theorem dots_follows (hnext : FollowsSegments text scan nested inPredicate bound n rounds)
    (h : name ++ '.' :: '.' :: rest <:+ text) (hbound : rest.length ≤ bound) (hn : rest.length ≤ n)
    (hrounds : Text.byteLength rest < rounds) (descending : Bool) (before : Before) :
    Cursor.segments text scan inPredicate (rounds + 1) descending before
        (placeOf text (name ++ '.' :: '.' :: rest)) (placeOf text ('.' :: '.' :: rest)) =
      placed text ((Path.segments nested inPredicate n true .dot rest).map
        (behind (segmentSteps descending name))) := by
  have hascii : '.'.toNat < 128 := by decide
  have hmark : '.' :: '.' :: rest <:+ text := (List.suffix_append name _).trans h
  have hdot := suffix_of_cons hmark
  rw [Cursor.segments, place_bind, bind_of_ok (peek_ascii hascii hmark)]
  simp only [Char.reduceEq, if_false, if_true]
  rw [bind_of_ok (pendingName_follows h descending),
    if_pos (by rw [byteAt_next hascii hmark]; rfl), skip_bind, ← Nat.add_assoc _ 1 1,
    placeOf_ascii hascii hmark, placeOf_ascii hascii hdot, place_bind]
  exact map_placed (hnext rest _ _ (suffix_of_cons hdot) hbound hn hrounds)

omit hfollows hnested in
/-- At one dot the name before it is a step, and a search for it is over. -/
theorem dot_follows (hnext : FollowsSegments text scan nested inPredicate bound n rounds)
    (h : name ++ '.' :: rest <:+ text) (hdots : rest.head? ≠ some '.')
    (hbound : rest.length ≤ bound) (hn : rest.length ≤ n) (hrounds : Text.byteLength rest < rounds)
    (descending : Bool) (before : Before) :
    Cursor.segments text scan inPredicate (rounds + 1) descending before
        (placeOf text (name ++ '.' :: rest)) (placeOf text ('.' :: rest)) =
      placed text ((Path.segments nested inPredicate n (descending && name.isEmpty) .dot rest).map
        (behind (segmentSteps descending name))) := by
  have hascii : '.'.toNat < 128 := by decide
  have hmark : '.' :: rest <:+ text := (List.suffix_append name _).trans h
  have hbyte : byteAt text (placeOf text ('.' :: rest) + 1) ≠ some '.' := by
    rw [byteAt_next hascii hmark]
    cases rest with
    | nil => simp
    | cons c after =>
        rw [List.head?_cons, ne_eq, Option.some.injEq] at hdots
        simpa (disch := decide) only [List.head?_cons, Option.map_some, ne_eq,
          Option.some.injEq, lead_eq_iff] using hdots
  rw [Cursor.segments, place_bind, bind_of_ok (peek_ascii hascii hmark)]
  simp only [Char.reduceEq, if_false, if_true]
  rw [bind_of_ok (pendingName_follows h descending), if_neg hbyte, skip_bind,
    placeOf_ascii hascii hmark, place_bind, beq_placeOf h]
  exact map_placed (hnext rest _ _ (suffix_of_cons hmark) hbound hn hrounds)

omit hfollows hnested in
/-- In front of anything else that ends a name the path ends. -/
theorem otherMark_follows (h : name ++ rest <:+ text) (hrest : NoName inPredicate rest)
    (hbracket : ∀ after, rest ≠ '[' :: after) (hdot : ∀ after, rest ≠ '.' :: after)
    (descending : Bool) (before : Before) :
    Cursor.segments text scan inPredicate (rounds + 1) descending before
        (placeOf text (name ++ rest)) (placeOf text rest) =
      placed text (if name.isEmpty then Path.endPath inPredicate before rest
        else .ok (segmentSteps descending name, rest)) := by
  rw [← endPath_follows inPredicate descending before h, Cursor.segments, place_bind]
  cases rest with
  | nil => rw [bind_of_ok peek_nil]
  | cons c after =>
      have hbracket : c ≠ '[' := by
        rintro rfl
        exact hbracket after rfl
      have hdot : c ≠ '.' := by
        rintro rfl
        exact hdot after rfl
      rw [bind_of_ok (peek_cons ((List.suffix_append name _).trans h))]
      simp (disch := decide) only [isNameChar_lead, lead_eq_iff, hrest c rfl,
        Bool.false_eq_true, if_false]
      rw [if_neg hbracket, if_neg hdot]

end Marks

theorem segments_follows (inPredicate : Bool) (n rounds : Nat) :
    FollowsSegments text scan nested inPredicate bound n rounds := by
  induction n generalizing rounds with
  | zero =>
      intro rest descending before h hbound hn hrounds
      obtain ⟨rounds, rfl⟩ : ∃ n, rounds = n + 1 := ⟨rounds - 1, by omega⟩
      obtain rfl := List.eq_nil_of_length_eq_zero (Nat.le_zero.1 hn)
      rw [Cursor.segments, place_bind, bind_of_ok peek_nil]
      exact @endPath_follows text [] inPredicate descending before [] h
  | succ n ih =>
      intro rest descending before h hbound hn hrounds
      obtain ⟨name, left, rfl, hname, hleft⟩ := exists_name inPredicate rest
      rw [List.length_append] at hbound hn
      rw [Text.byteLength_append] at hrounds
      obtain ⟨rounds, rfl⟩ : ∃ n, rounds = Text.byteLength name + (n + 1) :=
        ⟨rounds - Text.byteLength name - 1, by omega⟩
      by_cases hindexer : before = .indexer ∧ name ≠ []
      · obtain ⟨rfl, hne⟩ := hindexer
        obtain ⟨c, others, rfl⟩ := List.exists_cons_of_ne_nil hne
        rw [Path.segments.eq_def]
        simp only [takeWhile_run hname hleft]
        exact nameBehindIndexer_follows (hname c List.mem_cons_self) h descending _
      · have hbefore : before = .indexer → name = [] := fun hbefore =>
          by_contra fun hne => hindexer ⟨hbefore, hne⟩
        rw [segments_through hname h hbefore, Path.segments, takeWhile_run hname hleft,
          dropWhile_run hname hleft]
        · simp only
          split
          next after =>
            rw [List.length_cons] at hbound hn
            rw [Text.byteLength_cons] at hrounds
            have hsize := '['.utf8Size_pos
            exact bracket_follows hfollows hnested (ih rounds) h (by omega) (by omega) (by omega)
              _ _
          next after =>
            rw [List.length_cons, List.length_cons] at hbound hn
            rw [Text.byteLength_cons, Text.byteLength_cons] at hrounds
            have hsize := '.'.utf8Size_pos
            exact dots_follows (ih rounds) h (by omega) (by omega) (by omega) _ _
          next after hdots =>
            rw [List.length_cons] at hbound hn
            rw [Text.byteLength_cons] at hrounds
            have hsize := '.'.utf8Size_pos
            have hdots : after.head? ≠ some '.' := by
              intro hhead
              obtain ⟨more, rfl⟩ := List.head?_eq_some_iff.1 hhead
              exact hdots more rfl
            exact dot_follows (ih rounds) h hdots (by omega) (by omega) (by omega) _ _
          next hbracket _ hdot => exact otherMark_follows h hleft hbracket hdot _ _
        · intro c others hindexer hshape
          rw [takeWhile_run hname hleft, hbefore hindexer] at hshape
          cases hshape

/-! ## Operands and terms -/

/-- Behind an operand there must be more of the predicate. -/
def closeOperand (read : Operand × List Char) : Except Failure (Operand × List Char) := do
  let rest ← Path.skipInside read.2
  .ok (read.1, rest)

/-- The cursor refuses a path at the very end of the text, where the reader goes on to
refuse the operand. -/
theorem operandPath_follows {c : Char} (hascii : c.toNat < 128) (h : c :: rest <:+ text)
    (hbound : rest.length ≤ bound) (first : List Step) :
    ∃ outcome, Cursor.operandPath text scan first (placeOf text (c :: rest)) = placed text outcome ∧
      Anchored rest (Leaves rest) outcome ∧
      outcome >>= closeOperand = Path.operandPath nested first rest >>= closeOperand := by
  have hrest := suffix_of_cons h
  have hsegments := segments_follows hfollows hnested true rest.length _ rest false .start hrest
    hbound (Nat.le_refl _) (byteLength_lt_rounds hrest)
  have hanchored := segments_anchored hnested true rest.length false .start
    (List.suffix_rfl (l := rest))
  refine ⟨Path.segments nested true rest.length false .start rest >>= fun read =>
    if read.2.isEmpty then failAt .openPredicate [] else .ok (.path (first ++ read.1), read.2),
    ?_, ?_, ?_⟩
  · rw [Cursor.operandPath, skip_bind, placeOf_ascii hascii h, place_bind]
    refine bind_placed hsegments hanchored ?_
    intro steps left hleft
    cases left with
    | nil =>
        rw [bind_of_ok peek_nil]
        rfl
    | cons d left =>
        rw [bind_of_ok (peek_cons (List.IsSuffix.trans hleft hrest))]
        rfl
  · refine hanchored.bind ?_
    rintro ⟨steps, left⟩ hleft
    simp only
    split
    · exact anchored_failAt List.nil_suffix trivial
    · exact anchored_ok hleft
  · rw [Path.operandPath]
    cases Path.segments nested true rest.length false .start rest with
    | error failure => rfl
    | ok read =>
        obtain ⟨steps, left⟩ := read
        cases left with
        | nil => rfl
        | cons d left => rfl

theorem bareOperand_follows (h : rest <:+ text) (hbound : rest.length ≤ bound) :
    ∃ outcome, Cursor.bareOperand text scan (placeOf text rest) = placed text outcome ∧
      Anchored rest (Leaves rest) outcome ∧
      outcome >>= closeOperand = Path.bareOperand nested rest >>= closeOperand := by
  cases rest with
  | nil =>
      refine ⟨Path.bareOperand nested [], ?_, bareOperand_anchored hnested [], rfl⟩
      rw [Cursor.bareOperand, bind_of_ok peek_nil]
      rfl
  | cons c rest =>
      have hrest := suffix_of_cons h
      rw [List.length_cons] at hbound
      have hshorter : rest.length ≤ bound := by omega
      by_cases hat : c = '@'
      · subst hat
        obtain ⟨outcome, hscan, hanchored, hclose⟩ :=
          operandPath_follows hfollows hnested (by decide) h hshorter []
        refine ⟨outcome, ?_, hanchored.mono (List.suffix_cons _ _) fun _ hleft =>
          hleft.trans (List.suffix_cons _ _), hclose⟩
        rw [Cursor.bareOperand, bind_of_ok (peek_ascii (by decide) h)]
        exact hscan
      by_cases hdollar : c = '$'
      · subst hdollar
        obtain ⟨outcome, hscan, hanchored, hclose⟩ :=
          operandPath_follows hfollows hnested (by decide) h hshorter [.root]
        refine ⟨outcome, ?_, hanchored.mono (List.suffix_cons _ _) fun _ hleft =>
          hleft.trans (List.suffix_cons _ _), hclose⟩
        rw [Cursor.bareOperand, bind_of_ok (peek_ascii (by decide) h)]
        exact hscan
      refine ⟨Path.bareOperand nested (c :: rest), ?_, bareOperand_anchored hnested _, rfl⟩
      rw [Cursor.bareOperand, bind_of_ok (peek_cons h), Path.bareOperand]
      simp (disch := decide) only [asciiKind_isIndexChar.lead, lead_eq_iff]
      rw [if_neg hat, if_neg hdollar, if_neg hat, if_neg hdollar]
      split_ifs with hquote hslash hindex htrue hfalse hnull
      · rw [skip_bind, placeOf_ascii (by rw [hquote]; decide) h]
        exact map_placed (quoted_follows hrest (length_lt_rounds hrest))
      · subst hslash
        exact map_placed (readRegex_follows h)
      · exact map_placed (readNumber_follows h)
      · exact readWord_follows (by simp) _ h
      · exact readWord_follows (by simp) _ h
      · exact readWord_follows (by simp) _ h
      · exact unexpected_cons _ h

theorem operand_follows (h : rest <:+ text) (hbound : rest.length ≤ bound) :
    Cursor.operand text scan (placeOf text rest) = placed text (Path.operand nested rest) := by
  have hskip := skipBlanks_suffix h
  have hlength := Text.length_skipBlanks_le rest
  obtain ⟨outcome, hscan, hanchored, hclose⟩ :=
    bareOperand_follows hfollows hnested hskip (by omega)
  have hread : Path.operand nested rest = outcome >>= closeOperand := hclose.symm
  rw [hread, Cursor.operand, bind_of_ok (skipBlanks_follows h)]
  refine bind_placed hscan hanchored ?_
  intro side left hleft
  have hleft : left <:+ text := List.IsSuffix.trans hleft hskip
  refine bind_placed_unit (skipInside_follows hleft) (skipInside_anchored hleft) ?_
  intro left _
  rfl

theorem term_follows (h : rest <:+ text) (hbound : rest.length ≤ bound) :
    Cursor.term text scan (placeOf text rest) = placed text (Path.term nested rest) := by
  have hskip := skipBlanks_suffix h
  have hlength := Text.length_skipBlanks_le rest
  rw [Cursor.term, bind_of_ok (skipBlanks_follows h), Path.term]
  split
  next after heq =>
    rw [heq] at hskip hlength ⊢
    rw [List.length_cons] at hlength
    have hafter := suffix_of_cons hskip
    rw [bind_of_ok (peek_ascii (by decide) hskip)]
    simp only [if_true]
    rw [skip_bind, placeOf_ascii (by decide) hskip]
    refine bind_placed (hfollows after hafter (by omega)) (hnested after) ?_
    intro condition left hleft
    have hleft : left <:+ text := List.IsSuffix.trans hleft hafter
    refine bind_placed_unit (closeParenthesis_follows hleft) (closeParenthesis_anchored hleft) ?_
    intro left hleft
    refine bind_placed_unit (skipInside_follows hleft) (skipInside_anchored hleft) ?_
    intro left _
    rfl
  next hopen =>
    cases heq : Text.skipBlanks rest with
    | nil =>
        rw [bind_of_ok peek_nil]
        rfl
    | cons c after =>
        rw [heq] at hskip hlength
        have hopen : c ≠ '(' := by
          rintro rfl
          exact hopen after heq
        rw [bind_of_ok (peek_cons hskip)]
        simp (disch := decide) only [lead_eq_iff]
        rw [if_neg hopen]
        refine bind_placed (operand_follows hfollows hnested hskip (by omega))
          (operand_anchored hnested _) ?_
        intro left behind hbehind
        have hlength' : behind.length ≤ (c :: after).length := List.IsSuffix.length_le hbehind
        have hbehind : behind <:+ text := List.IsSuffix.trans hbehind hskip
        have hends : (behind.head?.map lead).any endsComparison =
            behind.head?.any endsComparison := by
          cases behind with
          | nil => rfl
          | cons d behind => exact asciiKind_endsComparison.lead d
        rw [bind_of_ok (peek_head hbehind), hends]
        simp only
        split_ifs
        · rfl
        refine bind_placed (readOperator_follows hbehind) (readOperator_anchored behind) ?_
        intro operator side hside
        have hlength'' : side.length ≤ behind.length := List.IsSuffix.length_le hside
        have hside : side <:+ text := List.IsSuffix.trans hside hbehind
        exact map_placed (operand_follows hfollows hnested hside (by omega))

end Nested

/-! ## Predicates and whole paths -/

section Predicates

variable {text rest : List Char} {bound : Nat}

theorem eat_doubled {mark : Char} (hmark : mark.toNat < 128) (h : mark :: rest <:+ text) :
    eat text [mark, mark] (placeOf text (mark :: rest)) =
      if rest.head? = some mark then some (.ok (true, placeOf text rest.tail))
      else some (.ok (false, placeOf text (mark :: rest))) := by
  rw [eat_follows (by simp [hmark]) h]
  cases rest with
  | nil => simp
  | cons c rest =>
      by_cases hc : c = mark
      · simp [hc]
      · simp [List.isPrefixOf_cons_cons, hc, Ne.symm hc]

theorem joined_follows {scan : Scan Condition} {item : Reader Condition} {mark : Char}
    (hmark : mark.toNat < 128) (hitem : Follows text scan item bound)
    (hanchored : AnchoredReader item) (hnil : item [] = failAt .openPredicate [])
    (h : rest <:+ text) (hbound : rest.length < bound) {n rounds : Nat} (hn : rest.length ≤ n)
    (hrounds : rest.length < rounds) :
    Cursor.joined text scan mark rounds (placeOf text rest) =
      placed text (Path.joined item mark n rest) := by
  induction n generalizing rest rounds with
  | zero =>
      obtain ⟨rounds, rfl⟩ : ∃ n, rounds = n + 1 := ⟨rounds - 1, by omega⟩
      obtain rfl := List.eq_nil_of_length_eq_zero (Nat.le_zero.1 hn)
      have hfail := hitem [] h hbound
      rw [hnil] at hfail
      exact bind_of_error hfail
  | succ n ih =>
      obtain ⟨rounds, rfl⟩ : ∃ n, rounds = n + 1 := ⟨rounds - 1, by omega⟩
      rw [Cursor.joined, Path.joined]
      refine bind_placed (hitem rest h hbound) (hanchored rest) ?_
      intro first left hleft
      have hlength := List.IsSuffix.length_le hleft
      have hleft : left <:+ text := List.IsSuffix.trans hleft h
      rw [bind_of_ok (peek_head hleft)]
      cases left with
      | nil => rfl
      | cons c after =>
          have hlead : (c :: after).head?.map lead = some mark ↔ c = mark := by
            rw [List.head?_cons, Option.map_some, Option.some.injEq, lead_eq_iff hmark]
          by_cases hc : c = mark
          · rw [if_pos (hlead.2 hc)]
            simp only
            rw [if_pos hc]
            subst hc
            have heat := eat_doubled hmark hleft
            cases after with
            | nil =>
                rw [bind_of_ok heat, if_neg (by simp)]
                exact unexpected_cons _ hleft
            | cons d more =>
                by_cases hd : d = c
                · subst hd
                  have hlength : (d :: d :: more).length ≤ rest.length := hlength
                  rw [List.length_cons, List.length_cons] at hlength
                  rw [List.head?_cons, if_pos rfl] at heat
                  rw [bind_of_ok heat, if_pos rfl]
                  simp only
                  rw [if_pos trivial]
                  exact map_placed (ih (suffix_of_cons (suffix_of_cons hleft)) (by omega)
                    (by omega) (by omega))
                · rw [if_neg (by simpa using hd)] at heat
                  rw [bind_of_ok heat, if_neg Bool.false_ne_true]
                  simp only
                  rw [if_neg hd]
                  exact unexpected_cons _ hleft
          · rw [if_neg fun h => hc (hlead.1 h)]
            simp only
            rw [if_neg hc]
            rfl

theorem conjunction_follows {scan : Scan Condition} {nested : Reader Condition}
    (hfollows : Follows text scan nested bound) (hnested : AnchoredReader nested) :
    Follows text (Cursor.conjunction text scan) (Path.conjunction nested) (bound + 1) := by
  intro rest h hbound
  have hterm : Follows text (Cursor.term text scan) (Path.term nested) (bound + 1) :=
    fun rest h hbound => term_follows hfollows hnested h (Nat.le_of_lt_succ hbound)
  exact map_placed (joined_follows (by decide) hterm (term_anchored hnested) rfl h hbound
    (Nat.le_refl _) (length_lt_rounds h))

theorem disjunction_follows {scan : Scan Condition} {nested : Reader Condition}
    (hfollows : Follows text scan nested bound) (hnested : AnchoredReader nested) :
    Follows text (Cursor.disjunction text scan) (Path.disjunction nested) (bound + 1) := by
  intro rest h hbound
  exact map_placed (joined_follows (by decide) (conjunction_follows hfollows hnested)
    (conjunction_anchored hnested) rfl h hbound (Nat.le_refl _) (length_lt_rounds h))

/-- A predicate is followed to the depth that both the cursor and the reader allow; where
the reader allows none, nothing but the end of the text is left. -/
theorem predicate_follows (depth depth' : Nat) :
    Follows text (Cursor.predicate text depth) (Path.predicate depth')
      (min depth (depth' + 1)) := by
  induction depth generalizing depth' with
  | zero =>
      intro rest _ hbound
      omega
  | succ depth ih =>
      cases depth' with
      | zero =>
          intro rest h hbound
          obtain rfl : rest = [] := List.eq_nil_of_length_eq_zero (by omega)
          have hnil : AnchoredReader (Path.predicate 0) := predicate_anchored 0
          have hempty : Follows text (Cursor.predicate text depth) (Path.predicate 0) 0 :=
            fun _ _ hbound => absurd hbound (Nat.not_lt_zero _)
          exact disjunction_follows hempty hnil [] h Nat.one_pos
      | succ depth' =>
          rw [Nat.succ_min_succ]
          exact disjunction_follows (ih depth') (predicate_anchored depth')

theorem wholePath_follows (h : rest <:+ text) :
    Cursor.wholePath text (placeOf text rest) =
      placed text ((Path.wholePath rest).map fun steps => (steps, [])) := by
  have hpredicate : Follows text (Cursor.predicate text (rounds text))
      (Path.predicate rest.length) rest.length := by
    intro left hleft hbound
    have hrounds := length_lt_rounds h
    exact predicate_follows _ _ left hleft (by omega)
  have hsegments := segments_follows hpredicate (predicate_anchored _) false rest.length _ rest
    false .start h (Nat.le_refl _) (Nat.le_refl _) (byteLength_lt_rounds h)
  have hanchored := segments_anchored (predicate_anchored rest.length) false rest.length false
    .start h
  rw [Cursor.wholePath, place_bind]
  cases hread : Path.segments (Path.predicate rest.length) false rest.length false .start rest with
  | error failure =>
      rw [hread] at hsegments
      rw [Path.wholePath, hread]
      exact bind_of_error hsegments
  | ok read =>
      obtain ⟨steps, left⟩ := read
      rw [hread] at hsegments hanchored
      have hleft : left <:+ text := hanchored
      rw [bind_of_ok hsegments, bind_of_ok (skipBlanks_follows hleft)]
      cases heq : Text.skipBlanks left with
      | nil =>
          have hwhole : Path.wholePath rest = .ok steps := by
            rw [Path.wholePath, hread]
            simp only [bind, Except.bind, heq]
          rw [hwhole]
          exact bind_of_ok peek_nil
      | cons c after =>
          have hafter := suffix_of_skipBlanks hleft heq
          have hwhole : Path.wholePath rest = Path.unexpected .path c after := by
            rw [Path.wholePath, hread]
            simp only [bind, Except.bind, heq]
          rw [hwhole, bind_of_ok (peek_cons hafter)]
          exact unexpected_cons _ hafter

/-- The cursor reads a path text as the reader does, and comes to its end. -/
theorem readSteps_follows (text : List Char) :
    Cursor.readSteps text 0 =
      placed text ((Path.readSteps text).map fun steps => (steps, [])) := by
  have hskip := skipBlanks_suffix (List.suffix_rfl (l := text))
  rw [← placeOf_self text, Cursor.readSteps, bind_of_ok (skipBlanks_follows List.suffix_rfl),
    Path.readSteps]
  split
  next heq =>
    rw [heq, bind_of_ok peek_nil]
    rfl
  next rest heq =>
    rw [heq] at hskip ⊢
    have hrest := suffix_of_cons hskip
    rw [bind_of_ok (peek_ascii (by decide) hskip)]
    simp only [if_true]
    rw [place_bind, byteAt_next (by decide) hskip]
    cases rest with
    | nil =>
        rw [if_neg (by simp), if_pos (by simp), skip_bind, placeOf_ascii (by decide) hskip,
          bind_of_ok (skipBlanks_follows hrest)]
        exact bind_of_ok peek_nil
    | cons c after =>
        have hmark : (c :: after).head?.map lead = some '.' ∨
            (c :: after).head?.map lead = some '[' ↔ c = '.' ∨ c = '[' := by
          rw [List.head?_cons, Option.map_some, Option.some.injEq, Option.some.injEq,
            lead_eq_iff (by decide), lead_eq_iff (by decide)]
        have hblank : ((c :: after).head?.map lead).all Text.isBlank = Text.isBlank c :=
          asciiKind_isBlank.lead c
        simp only
        by_cases hc : c = '.' ∨ c = '['
        · rw [if_pos (hmark.2 hc), if_pos hc, skip_bind, placeOf_ascii (by decide) hskip]
          exact wholePath_follows hrest
        · rw [if_neg fun h => hc (hmark.1 h), if_neg hc, hblank]
          split_ifs
          · rw [skip_bind, placeOf_ascii (by decide) hskip, bind_of_ok (skipBlanks_follows hrest)]
            cases heq : Text.skipBlanks (c :: after) with
            | nil => exact bind_of_ok peek_nil
            | cons d behind =>
                have hbehind := suffix_of_skipBlanks hrest heq
                rw [bind_of_ok (peek_cons hbehind)]
                exact unexpected_cons _ hbehind
          · exact wholePath_follows hskip
  next hnil hdollar =>
    obtain ⟨c, after, heq⟩ := List.exists_cons_of_ne_nil hnil
    rw [heq] at hskip ⊢
    have hc : c ≠ '$' := by
      rintro rfl
      exact hdollar after heq
    rw [bind_of_ok (peek_cons hskip)]
    simp (disch := decide) only [lead_eq_iff]
    rw [if_neg hc]
    exact wholePath_follows hskip

end Predicates

end Cursor

end PathQuery.Path
