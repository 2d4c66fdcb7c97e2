import PathQuery.Proofs.Path.Continuation
import PathQuery.Proofs.Path.Diagnosis

/-!
# Paths one behind the other

If more is written behind a path text, at a dot or a bracket, the longer text is read as
the path and then as the rest read from a root: the steps are those of the two, and a fault
in the rest is found at the same place.  That the rest is read in the same way does not
depend on the rounds and the depth that its length allows, for the cursor that reads it
knows of neither.
-/

namespace PathQuery.Path

/-! ## Rounds and depth -/

section Rounds

variable {α : Type} {text : List Char}

/-- An end of a text is known by its place. -/
theorem eq_of_placeOf_eq {left right : List Char} (hleft : left <:+ text) (hright : right <:+ text)
    (h : placeOf text left = placeOf text right) : left = right := by
  have hfrom := textFrom_placeOf hleft
  rw [h, textFrom_placeOf hright] at hfrom
  exact (Option.some.inj hfrom).symm

/-- An outcome is known by its places. -/
theorem eq_of_placed_eq {first second : Except Failure (α × List Char)}
    (hfirst : Anchored text (Leaves text) first) (hsecond : Anchored text (Leaves text) second)
    (h : placed text first = placed text second) : first = second := by
  have h := Option.some.inj h
  cases first with
  | error failure =>
      cases second with
      | error failure' =>
          obtain ⟨fault, rest⟩ := failure
          obtain ⟨fault', rest'⟩ := failure'
          have hlocate := Except.error.inj h
          have hfault : fault = fault' := congrArg ParseError.fault hlocate
          have hplace : placeOf text rest = placeOf text rest' :=
            congrArg ParseError.position hlocate
          have hrest : rest = rest' := eq_of_placeOf_eq hfirst.1 hsecond.1 hplace
          rw [hfault, hrest]
      | ok read => cases h
  | ok read =>
      cases second with
      | error failure => cases h
      | ok read' =>
          obtain ⟨value, rest⟩ := read
          obtain ⟨value', rest'⟩ := read'
          obtain ⟨hvalue, hplace⟩ := Prod.mk.inj (Except.ok.inj h)
          have hrest : rest = rest' := eq_of_placeOf_eq hfirst hsecond hplace
          rw [hvalue, hrest]

/-- A path is read in the same way with more rounds and a greater depth than its length. -/
theorem segments_rounds {depth depth' n n' : Nat} (hdepth : text.length ≤ depth)
    (hdepth' : text.length ≤ depth') (hn : text.length ≤ n) (hn' : text.length ≤ n') :
    segments (predicate depth) false n false .start text =
      segments (predicate depth') false n' false .start text := by
  have hrounds := Cursor.length_lt_rounds (List.suffix_rfl (l := text))
  have hfollows : ∀ {d}, text.length ≤ d → Follows text
      (Cursor.predicate text (Cursor.rounds text)) (predicate d) text.length :=
    fun hd rest hrest hbound => Cursor.predicate_follows _ _ rest hrest (by omega)
  have hscan : ∀ {d m}, text.length ≤ d → text.length ≤ m →
      Cursor.segments text (Cursor.predicate text (Cursor.rounds text)) false
          (Cursor.rounds text) false .start (placeOf text text) (placeOf text text) =
        placed text (segments (predicate d) false m false .start text) :=
    fun hd hm => Cursor.segments_follows (hfollows hd) (predicate_anchored _) false _ _ _ _ _
      List.suffix_rfl (Nat.le_refl _) hm (Cursor.byteLength_lt_rounds List.suffix_rfl)
  exact eq_of_placed_eq
    (segments_anchored (predicate_anchored _) _ _ _ _ List.suffix_rfl)
    (segments_anchored (predicate_anchored _) _ _ _ _ List.suffix_rfl)
    ((hscan hdepth hn).symm.trans (hscan hdepth' hn'))

end Rounds

/-! ## Whole paths -/

section Append

variable {text more : List Char} {steps : List Step}

/-- An end of a text ends as the text does. -/
theorem not_blank_end (htext : ∀ c ∈ text.getLast?, Text.isBlank c = false)
    {rest : List Char} (hrest : rest <:+ text) : ∀ c ∈ rest.getLast?, Text.isBlank c = false := by
  intro c hc
  obtain ⟨before, rfl⟩ := hrest
  refine htext c ?_
  rw [List.getLast?_append, Option.mem_def.1 hc, Option.some_or]
  rfl

/-- If a text does not end in a blank, blanks at its end are no characters. -/
theorem eq_nil_of_blank_end (htext : ∀ c ∈ text.getLast?, Text.isBlank c = false)
    {rest : List Char} (hrest : rest <:+ text) (hblank : Text.skipBlanks rest = []) :
    rest = [] := by
  by_contra hne
  have hlast := not_blank_end htext hrest (rest.getLast hne)
    (List.getLast?_eq_some_getLast hne)
  rw [List.dropWhile_eq_nil_iff.1 hblank _ (List.getLast_mem hne)] at hlast
  cases hlast

/-- A text that begins with a dot or a bracket goes on with no name and no blank. -/
theorem mark_of_head? (hmore : more.head? = some '.' ∨ more.head? = some '[') :
    NoName false more ∧ Text.skipBlanks more = more ∧
      readSteps ('$' :: more) = wholePath more ∧ readSteps more = wholePath more := by
  cases more with
  | nil => simp at hmore
  | cons c more =>
      simp only [List.head?_cons, Option.some.injEq] at hmore
      rcases hmore with rfl | rfl
      · refine ⟨by simp [NoName, isNameChar], rfl, rfl, rfl⟩
      · refine ⟨by simp [NoName, isNameChar], rfl, rfl, rfl⟩

theorem wholePath_append (h : wholePath text = .ok steps)
    (htext : ∀ c ∈ text.getLast?, Text.isBlank c = false) (hmore : NoName false more) :
    wholePath (text ++ more) = (wholePath more).map (steps ++ ·) := by
  obtain ⟨⟨found, rest⟩, hsegments, h⟩ := exists_of_bind_ok h
  have hrest : rest <:+ text := by
    have hanchored := segments_anchored (predicate_anchored text.length) false text.length false
      .start (List.suffix_rfl (l := text))
    rwa [hsegments] at hanchored
  simp only at h
  split at h
  next hskip =>
    obtain rfl := eq_nil_of_blank_end htext hrest hskip
    cases h
    obtain ⟨m, hm, hread⟩ := segments_append
      (predicate_extends (Nat.le_add_right text.length more.length)) (predicate_anchored _)
      hsegments (Nat.le_refl _) (Nat.le_refl _) (by simp) fun _ => hmore
    have hrounds : segments (predicate (text.length + more.length)) false m false .start more =
        segments (predicate more.length) false more.length false .start more :=
      segments_rounds (Nat.le_add_left _ _) (Nat.le_refl _) hm (Nat.le_refl _)
    rw [readBehind, List.isEmpty_nil, if_pos rfl, hrounds] at hread
    rw [wholePath, wholePath, List.length_append, hread]
    cases segments (predicate more.length) false more.length false .start more with
    | error failure => rfl
    | ok read =>
        simp only [Except.map, behind, bind, Except.bind]
        split
        · rfl
        · rfl
  next => cases h

/-- Blanks in front of a path mean nothing. -/
theorem readSteps_congr {text' : List Char} (h : Text.skipBlanks text = Text.skipBlanks text') :
    readSteps text = readSteps text' := by
  rw [readSteps, h, ← readSteps]

/-- What does not begin with a dollar sign is a path as a whole. -/
theorem readSteps_of_ne {rest : List Char} {c : Char}
    (hskip : Text.skipBlanks text = c :: rest) (hc : c ≠ '$') :
    readSteps text = wholePath (c :: rest) := by
  rw [readSteps, hskip]
  split
  next hshape => cases hshape
  next hshape => exact absurd (List.cons.inj hshape).1 hc
  next => rfl

theorem map_nil_append (result : Except Failure (List Step)) :
    result.map ([] ++ ·) = result := by
  cases result with
  | error failure => rfl
  | ok steps => rfl

/-- More segments behind a path text are read as they are behind a root. -/
theorem readSteps_append (h : readSteps text = .ok steps)
    (htext : ∀ c ∈ text.getLast?, Text.isBlank c = false)
    (hmore : more.head? = some '.' ∨ more.head? = some '[') :
    readSteps (text ++ more) = (readSteps ('$' :: more)).map (steps ++ ·) := by
  obtain ⟨hname, _, hroot, hplain⟩ := mark_of_head? hmore
  rw [hroot]
  rw [readSteps] at h
  split at h
  next hskip =>
    obtain rfl := eq_nil_of_blank_end htext List.suffix_rfl hskip
    cases h
    rw [List.nil_append, hplain, map_nil_append]
  next rest hskip =>
    have hdollar : '$' :: rest <:+ text := suffix_of_skipBlanks List.suffix_rfl hskip
    have hrest := suffix_of_cons hdollar
    cases rest with
    | nil =>
        cases h
        have hsame : Text.skipBlanks (text ++ more) = Text.skipBlanks ('$' :: more) :=
          skipBlanks_cons_more hskip more
        rw [readSteps_congr hsame, hroot, map_nil_append]
    | cons c after =>
        rw [readSteps, skipBlanks_cons_more hskip]
        simp only [List.cons_append] at h ⊢
        split_ifs at h ⊢ with hmark hblank
        · exact wholePath_append h (not_blank_end htext hrest) hname
        · split at h
          next hnil => exact absurd (eq_nil_of_blank_end htext hrest hnil) (List.cons_ne_nil _ _)
          next => cases h
        · exact wholePath_append h (not_blank_end htext hdollar) hname
  next hnil hdollar =>
    obtain ⟨c, after, hskip⟩ := List.exists_cons_of_ne_nil hnil
    have hc : c ≠ '$' := by
      rintro rfl
      exact hdollar after hskip
    have hsuffix : c :: after <:+ text := suffix_of_skipBlanks List.suffix_rfl hskip
    rw [hskip] at h
    rw [readSteps_of_ne (skipBlanks_cons_more hskip more) hc]
    exact wholePath_append h (not_blank_end htext hsuffix) hname

end Append

/-! ## Path texts -/

theorem parse_eq (text : String) :
    parse text = match readSteps text.toList with
      | .ok steps => .ok ⟨text, steps⟩
      | .error failure => .error (failure.locate text.toList) := by
  rw [parse, stepsOf]
  cases readSteps text.toList with
  | error failure => rfl
  | ok steps => rfl

theorem readSteps_of_parse {text : String} {path : Path} (h : parse text = .ok path) :
    readSteps text.toList = .ok path.steps := by
  rw [parse_eq] at h
  cases hread : readSteps text.toList with
  | error failure =>
      rw [hread] at h
      cases h
  | ok steps =>
      rw [hread] at h
      cases h
      rfl

theorem parse_eq_ok_iff {text : String} {steps : List Step} :
    parse text = .ok ⟨text, steps⟩ ↔ readSteps text.toList = .ok steps := by
  constructor
  · exact readSteps_of_parse
  · intro h
    rw [parse_eq, h]

/-- What is behind a root has its faults behind the dollar sign. -/
theorem rest_suffix_of_root {more : List Char} {failure : Failure}
    (hmore : more.head? = some '.' ∨ more.head? = some '[')
    (h : readSteps ('$' :: more) = .error failure) : failure.rest <:+ more := by
  rw [(mark_of_head? hmore).2.2.1] at h
  have hanchored := wholePath_anchored (List.suffix_rfl (l := more))
  rw [h] at hanchored
  exact hanchored.1

/-- If `tail` begins with a dot or a bracket and is written directly behind a path text,
then the whole is a path text exactly if `tail` is one behind a root.  Its steps are those
of the path and then those of `tail`; and a fault in `tail` is a fault of the whole, at a
place that is further on by the length of the path less one byte for the dollar sign. -/
theorem parse_append {text tail : String} {path : Path} (hpath : parse text = .ok path)
    (htext : ∀ c ∈ text.toList.getLast?, Text.isBlank c = false)
    (htail : tail.toList.head? = some '.' ∨ tail.toList.head? = some '[') :
    ((∃ whole, parse (text ++ tail) = .ok whole) ↔ ∃ rest, parse ("$" ++ tail) = .ok rest) ∧
      (∀ rest, parse ("$" ++ tail) = .ok rest →
        parse (text ++ tail) = .ok ⟨text ++ tail, path.steps ++ rest.steps⟩) ∧
      ∀ error, parse ("$" ++ tail) = .error error →
        ∃ position, parse (text ++ tail) = .error ⟨error.fault, position⟩ ∧
          (position : Int) = error.position + (text.utf8ByteSize - 1) := by
  have hread := readSteps_append (readSteps_of_parse hpath) htext htail
  rw [parse_eq (text ++ tail), parse_eq ("$" ++ tail), String.toList_append,
    String.toList_append, hread]
  have hroot : "$".toList ++ tail.toList = '$' :: tail.toList := rfl
  rw [hroot]
  cases hrest : readSteps ('$' :: tail.toList) with
  | error failure =>
      have hsuffix := rest_suffix_of_root htail hrest
      refine ⟨?_, ?_, ?_⟩
      · constructor
        · rintro ⟨whole, h⟩
          cases h
        · rintro ⟨rest, h⟩
          cases h
      · intro rest h
        cases h
      · intro error h
        cases h
        refine ⟨_, rfl, ?_⟩
        change ((placeOf (text.toList ++ tail.toList) failure.rest : Nat) : Int) =
          (placeOf ('$' :: tail.toList) failure.rest : Nat) + (text.utf8ByteSize - 1)
        obtain ⟨before, hbefore⟩ := hsuffix
        rw [← hbefore, ← List.append_assoc, ← List.cons_append, placeOf_append, placeOf_append,
          Text.byteLength_append, Text.byteLength_cons, utf8Size_of_ascii (by decide),
          byteLength_toList]
        omega
  | ok steps =>
      refine ⟨?_, ?_, ?_⟩
      · constructor
        · intro
          exact ⟨_, rfl⟩
        · intro
          exact ⟨_, rfl⟩
      · intro rest h
        cases h
        rfl
      · intro error h
        cases h

/-- Behind an indexer with a wide character before it: two dots are read as they are
behind a root, and a fault moves on by the bytes of the path less one. -/
theorem parse_append_indexer :
    parse ("é[0]" ++ "..b") =
        .ok ⟨"é[0]..b", [.member (some "é"), .element (some 0), .descend (some "b")]⟩ ∧
      ∃ position, parse ("é[0]" ++ "[x") = .error ⟨.unexpectedCharacter .indexer 'x', position⟩ ∧
        (position : Int) = 2 + (5 - 1) := by
  have hpath : parse "é[0]" = .ok ⟨"é[0]", [.member (some "é"), .element (some 0)]⟩ := by rfl
  have hend : ∀ c ∈ "é[0]".toList.getLast?, Text.isBlank c = false := by
    rintro c ⟨⟩
    rfl
  refine ⟨?_, ?_⟩
  · exact (parse_append hpath hend (by decide)).2.1 ⟨"$..b", [.descend (some "b")]⟩ (by rfl)
  · exact (parse_append hpath hend (by decide)).2.2
      ⟨.unexpectedCharacter .indexer 'x', 2⟩ (by rfl)

end PathQuery.Path
