import PathQuery.Proofs.Path.Concatenation
import PathQuery.Proofs.Path.RoundTrip

/-!
# Paths as operands

A path means the same behind a dollar sign and as an operand of a predicate.  Inside of a
predicate the signs of operators end a path and blanks stand behind it, so a text with
these outside of its indexers is another path there.  In an indexer everything is read as
it is at the top, since an indexer has an end of its own.
-/

namespace PathQuery.Path

/-! ## Outside of indexers -/

/-- The characters of a text that stand outside of its indexers; every round consumes a
character. -/
def outside (nested : Reader Condition) : Nat → List Char → List Char
  | 0, _ => []
  | _ + 1, [] => []
  | rounds + 1, c :: rest =>
    if c = '[' then
      match indexer nested false rest with
      | .ok (_, rest) => outside nested rounds rest.tail
      | .error _ => []
    else c :: outside nested rounds rest

/-- The characters of a path text that stand outside of its indexers. -/
def outsideIndexers (text : String) : List Char :=
  outside (predicate text.toList.length) text.toList.length text.toList

/-- If a text has neither blanks nor signs of operators outside of its indexers. -/
def PlainOutside (nested : Reader Condition) (rounds : Nat) (text : List Char) : Prop :=
  ∀ c ∈ outside nested rounds text,
    Text.isBlank c = false ∧ c ∉ ['=', '<', '!', '>', '|', '&']

section Outside

variable {nested : Reader Condition}

theorem filterIndexer_rest {descending : Bool} {text rest : List Char} {step : Step}
    (h : filterIndexer nested descending text = .ok (step, rest)) (descending' : Bool) :
    ∃ step', filterIndexer nested descending' text = .ok (step', rest) := by
  rw [filterIndexer.eq_def] at h
  split at h
  next => cases h
  next after =>
    obtain ⟨⟨condition, left⟩, hcondition, h⟩ := exists_of_bind_ok h
    obtain ⟨behind, hclose, h⟩ := exists_of_bind_ok h
    rw [filterIndexer, hcondition]
    simp only [bind, Except.bind, hclose] at h ⊢
    split at h
    next => cases h
    next hskip =>
      cases h
      exact ⟨_, rfl⟩
    next => cases h
  next => cases h

/-- Two dots in front of an indexer change its steps, and not where it ends. -/
theorem indexer_rest {descending : Bool} {text rest : List Char} {steps : List Step}
    (h : indexer nested descending text = .ok (steps, rest)) (descending' : Bool) :
    ∃ steps', indexer nested descending' text = .ok (steps', rest) := by
  rw [indexer] at h ⊢
  split at h
  next => cases h
  next =>
    obtain ⟨⟨names, left⟩, hnames, hshape⟩ := exists_of_map_ok h
    cases hshape
    rw [hnames]
    exact ⟨_, rfl⟩
  next =>
    obtain ⟨⟨step, left⟩, hstep, hshape⟩ := exists_of_map_ok h
    cases hshape
    obtain ⟨step', hstep'⟩ := filterIndexer_rest hstep descending'
    rw [hstep']
    exact ⟨_, rfl⟩
  next =>
    obtain ⟨⟨step, left⟩, hstep, hshape⟩ := exists_of_map_ok h
    cases hshape
    rw [hstep]
    exact ⟨_, rfl⟩

/-- A name stands outside. -/
theorem outside_name {name : List Char} (hname : ∀ c ∈ name, c ≠ '[') (rounds : Nat)
    (text : List Char) :
    outside nested (rounds + name.length) (name ++ text) = name ++ outside nested rounds text := by
  induction name with
  | nil => rfl
  | cons c name ih =>
      rw [List.length_cons, ← Nat.add_assoc, List.cons_append, outside,
        if_neg (hname c List.mem_cons_self), ih fun d hd => hname d (List.mem_cons_of_mem c hd)]
      rfl

/-- No blanks are left over where there are none outside. -/
theorem PlainOutside.eq_nil {rounds : Nat} {text : List Char}
    (h : PlainOutside nested rounds text) (hrounds : text.length ≤ rounds)
    (hbracket : text.head? ≠ some '[') (hblanks : Text.skipBlanks text = []) : text = [] := by
  cases text with
  | nil => rfl
  | cons c rest =>
      rw [List.length_cons] at hrounds
      obtain ⟨rounds, rfl⟩ : ∃ n, rounds = n + 1 := ⟨rounds - 1, by omega⟩
      have hc : c ≠ '[' := by
        rintro rfl
        exact hbracket rfl
      have hplain : c ∈ outside nested (rounds + 1) (c :: rest) := by
        rw [outside, if_neg hc]
        exact List.mem_cons_self
      have hblank := List.dropWhile_eq_nil_iff.1 hblanks c List.mem_cons_self
      rw [(h c hplain).1] at hblank
      cases hblank

/-- What is outside behind a character is outside of the whole text. -/
theorem PlainOutside.tail {rounds : Nat} {c : Char} {text : List Char} (hc : c ≠ '[')
    (h : PlainOutside nested (rounds + 1) (c :: text)) : PlainOutside nested rounds text := by
  intro d hd
  apply h d
  rw [outside, if_neg hc]
  exact List.mem_cons_of_mem c hd

/-- What is outside behind an indexer is outside of the whole text. -/
theorem PlainOutside.indexer {rounds : Nat} {descending : Bool} {text rest : List Char}
    {steps : List Step} (hindexer : Path.indexer nested descending text = .ok (steps, rest))
    (h : PlainOutside nested (rounds + 1) ('[' :: text)) :
    PlainOutside nested rounds rest.tail := by
  obtain ⟨_, hread⟩ := indexer_rest hindexer false
  intro d hd
  apply h d
  rw [outside, if_pos rfl, hread]
  exact hd

end Outside

/-! ## Inside of a predicate -/

theorem isNameChar_plain {c : Char}
    (hc : Text.isBlank c = false ∧ c ∉ ['=', '<', '!', '>', '|', '&']) :
    isNameChar true c = isNameChar false c := by
  obtain ⟨hblank, hsign⟩ := hc
  simp only [List.mem_cons, List.not_mem_nil, or_false, not_or] at hsign
  simp [isNameChar, hblank, hsign]

/-- Inside of a predicate no character is added to those of names. -/
theorem isNameChar_outer {c : Char} (hc : isNameChar true c = true) :
    isNameChar false c = true := by
  simp only [isNameChar, Bool.not_eq_true', Bool.or_eq_false_iff] at hc ⊢
  exact ⟨hc.1, rfl⟩

theorem ne_bracket_of_isNameChar {inPredicate : Bool} {c : Char}
    (hc : isNameChar inPredicate c = true) : c ≠ '[' := by
  rintro rfl
  simp [isNameChar] at hc

section Inside

variable {nested nested' : Reader Condition} {rest left text : List Char} {steps : List Step}
  {before : Before} (hrest : EndsPath true rest)

include hrest

theorem noName_inside (htext : NoName false text) : NoName true (text ++ rest) := by
  cases text with
  | nil => exact hrest.noName
  | cons c text =>
      intro d hd
      by_contra h
      have hname := isNameChar_outer (c := d) (by simpa using h)
      rw [htext d hd] at hname
      cases hname

/-- Where a path ends with its text, it ends inside of a predicate. -/
theorem segments_inside_nil {n : Nat} {descending : Bool}
    (h : segments nested false n descending before [] = .ok (steps, left)) (n' : Nat) :
    segments nested' true n' descending before rest = .ok (steps, rest) := by
  rw [segments_nil] at h
  obtain ⟨rfl, rfl, hend⟩ := endPath_ok h
  have hbefore : before ≠ .dot := fun hdot => hend ⟨hdot, Or.inl rfl⟩
  exact segments_end hrest.noName hrest.noBracket hrest.noDot hbefore n' descending

variable (hextends : Extends nested nested') (hnested : AnchoredReader nested)

include hextends hnested

/-- At a mark a path goes on inside of a predicate as it does at the top. -/
theorem segmentsAtMark_inside {n n' m : Nat} {descending : Bool}
    (h : segmentsAtMark nested false n descending before text = .ok (steps, left))
    (hleft : Text.skipBlanks left = []) (hplain : PlainOutside nested m text)
    (hm : text.length ≤ m) (hn : text.length ≤ n + 1) (hn' : text.length + rest.length ≤ n' + 1)
    (hnext : ∀ {descending before after steps m},
      segments nested false n descending before after = .ok (steps, left) →
      PlainOutside nested m after → after.length ≤ m → after.length ≤ n →
      after.length + rest.length ≤ n' →
      segments nested' true n' descending before (after ++ rest) = .ok (steps, rest)) :
    segmentsAtMark nested' true n' descending before (text ++ rest) = .ok (steps, rest) := by
  unfold segmentsAtMark at h
  split at h
  next after =>
    rw [List.length_cons] at hm hn hn'
    obtain ⟨m, rfl⟩ : ∃ k, m = k + 1 := ⟨m - 1, by omega⟩
    obtain ⟨⟨found, behind⟩, hfound, h⟩ := exists_of_bind_ok h
    obtain ⟨⟨others, left⟩, hothers, hshape⟩ := exists_of_map_ok h
    cases hshape
    have hanchored := indexer_anchored hnested descending (List.suffix_rfl (l := after))
    rw [hfound] at hanchored
    obtain ⟨after', rfl, hsuffix⟩ := hanchored
    have hlength := (suffix_of_cons hsuffix).length_le
    have hread := hnext hothers (hplain.indexer hfound) (by simpa using by omega)
      (by simpa using by omega) (by simpa using by omega)
    rw [List.cons_append, segmentsAtMark, indexer_more hextends hfound rest]
    exact congrArg (Except.map (behind found)) hread
  next after =>
    rw [List.length_cons, List.length_cons] at hm hn hn'
    obtain ⟨m, rfl⟩ : ∃ k, m = k + 2 := ⟨m - 2, by omega⟩
    rw [List.cons_append, List.cons_append, segmentsAtMark]
    exact hnext h ((hplain.tail (by decide)).tail (by decide)) (by omega) (by omega) (by omega)
  next after hdots =>
    rw [List.length_cons] at hm hn hn'
    obtain ⟨m, rfl⟩ : ∃ k, m = k + 1 := ⟨m - 1, by omega⟩
    rw [List.cons_append, segmentsAtMark]
    · exact hnext h (hplain.tail (by decide)) (by omega) (by omega) (by omega)
    · intro others hshape
      cases after with
      | nil => exact hrest.noDot (by rw [← List.nil_append rest, hshape, List.head?_cons])
      | cons c after =>
          obtain ⟨rfl, _⟩ := List.cons.inj hshape
          exact hdots after rfl
  next hbracket hdots hdot =>
    obtain ⟨rfl, rfl, hend⟩ := endPath_ok h
    obtain rfl := hplain.eq_nil hm (head?_ne hbracket) hleft
    rw [List.nil_append, segmentsAtMark_end hrest.noBracket hrest.noDot, endPath,
      if_neg fun h => hend ⟨h.1, Or.inl rfl⟩]

/-- A path with neither blanks nor signs outside of its indexers is read inside of a
predicate as at the top, up to what stands behind it.  The rounds at the top carry the
induction; the other bounds only have to be large enough. -/
theorem segments_inside {n n' m : Nat} {descending : Bool}
    (h : segments nested false n descending before text = .ok (steps, left))
    (hleft : Text.skipBlanks left = []) (hplain : PlainOutside nested m text)
    (hm : text.length ≤ m) (hn : text.length ≤ n) (hn' : text.length + rest.length ≤ n') :
    segments nested' true n' descending before (text ++ rest) = .ok (steps, rest) := by
  induction n generalizing n' m descending before text steps with
  | zero =>
      obtain rfl := List.eq_nil_of_length_eq_zero (Nat.le_zero.1 hn)
      exact segments_inside_nil hrest h n'
  | succ n ih =>
      by_cases hempty : text = []
      · subst hempty
        exact segments_inside_nil hrest h n'
      obtain ⟨name, left', htext, hname, hnoName⟩ := exists_name false text
      have hbefore : before = .indexer → name = [] := by
        rintro rfl
        by_contra hne
        exact segments_name_indexer hname hnoName hne (htext ▸ h)
      subst htext
      have hlength := List.length_pos_iff.2 hempty
      rw [List.length_append] at hm hn hn' hlength
      obtain ⟨n', rfl⟩ : ∃ k, n' = k + 1 := ⟨n' - 1, by omega⟩
      obtain ⟨m, rfl⟩ : ∃ k, m = k + name.length := ⟨m - name.length, by omega⟩
      rw [segments_run hname hnoName hbefore] at h
      obtain ⟨⟨others, left⟩, hmark, hshape⟩ := exists_of_map_ok h
      cases hshape
      have hbracket : ∀ c ∈ name, c ≠ '[' := fun c hc => ne_bracket_of_isNameChar (hname c hc)
      rw [PlainOutside, outside_name hbracket] at hplain
      have hinside : ∀ c ∈ name, isNameChar true c = true := by
        intro c hc
        rw [isNameChar_plain (hplain c (List.mem_append_left _ hc)), hname c hc]
      have hplain' : PlainOutside nested m left' :=
        fun c hc => hplain c (List.mem_append_right name hc)
      have hbound : left'.length + rest.length ≤ n' + 1 := by omega
      have hread := segmentsAtMark_inside hrest hextends hnested hmark hleft hplain' (by omega)
        (by omega) hbound ih
      rw [List.append_assoc, segments_run hinside (noName_inside hrest hnoName) hbefore, hread]
      rfl

end Inside

/-! ## Paths that are asked for -/

section Reads

variable {text : List Char} {steps : List Step}

/-- The segments of a path are read as those of an operand. -/
theorem reads_segments (h : wholePath text = .ok steps)
    (hplain : PlainOutside (predicate text.length) text.length text) :
    (Phrase.segments true steps).Reads text := by
  obtain ⟨⟨found, left⟩, hsegments, h⟩ := exists_of_bind_ok h
  simp only at h
  split at h
  next hskip =>
    cases h
    intro depth rounds rest hdepth hrounds hrest
    rw [List.length_append] at hrounds
    exact segments_inside hrest (predicate_extends hdepth) (predicate_anchored _) hsegments hskip
      hplain (Nat.le_refl _) (Nat.le_refl _) hrounds
  next => cases h

/-- A path behind its sign is a term that asks whether there is something at the path. -/
theorem reads_existence (sign : Char) (first : List Step)
    (hsign : ∀ nested rest, bareOperand nested (sign :: rest) = operandPath nested first rest)
    (hblank : Text.isBlank sign = false) (hopen : sign ≠ '(')
    (hreads : (Phrase.segments true steps).Reads text) :
    (Phrase.term (.comparison .present (.path (first ++ steps)) none)).Reads (sign :: text) := by
  intro depth mark rest hdepth hmark
  rw [List.length_cons] at hdepth
  have hbare : ∀ after, EndsOperand after →
      bareOperand (predicate depth) (sign :: text ++ after) =
        .ok (.path (first ++ steps), after) := by
    intro after hafter
    rw [List.cons_append, hsign]
    exact reads_operandPath first hreads (by omega) hafter
  have hread : operand (predicate depth) (sign :: text ++ mark :: rest) =
      .ok (.path (first ++ steps), mark :: rest) :=
    operand_spaced hbare rfl hblank (Text.Spaced.refl _) (termMarks_subset hmark)
  have hhead : (Text.skipBlanks (sign :: text ++ mark :: rest)).head? ≠ some '(' := by
    rw [List.cons_append, Text.skipBlanks_cons hblank]
    simpa using hopen
  rw [term_comparison hhead, hread]
  simp [bind, Except.bind, endsComparison_of_mem_termMarks hmark]

/-- A filter that asks for a path is read from its text, at one depth or at every depth. -/
theorem readSteps_existence (sign : Char) (first : List Step)
    (hsign : ∀ nested rest, bareOperand nested (sign :: rest) = operandPath nested first rest)
    (hblank : Text.isBlank sign = false) (hopen : sign ≠ '(')
    (hreads : (Phrase.segments true steps).Reads text) {descending : Bool} {dots : List Char}
    (hdots : BracketDots descending dots) :
    readSteps (dots ++ '[' :: '?' :: '(' :: sign :: (text ++ [')', ']'])) =
      .ok [if descending then .descendFilter (.comparison .present (.path (first ++ steps)) none)
        else .filter (.comparison .present (.path (first ++ steps)) none)] := by
  have hterm := reads_existence sign first hsign hblank hopen hreads
  have hpredicate :
      (Phrase.predicate (.comparison .present (.path (first ++ steps)) none)).Reads
        (sign :: text) :=
    reads_predicate (reads_lastDisjunct (reads_conjunction (reads_lastConjunct hterm)))
  have hfilter := reads_filter hpredicate (Text.Spaced.refl _) descending
  have hnone : (Phrase.segments false []).Reads [] := by
    intro depth rounds rest _ _ hrest
    exact segments_end hrest.noName hrest.noBracket hrest.noDot (by decide) rounds false
  have hwhole := wholePath_segments (reads_bracketed hdots hfilter .noSegments hnone)
    Text.blanks_nil
  have hhead : ∀ more, (dots ++ '[' :: more).head? = some '.' ∨
      (dots ++ '[' :: more).head? = some '[' := by
    intro more
    cases hdots with
    | none => exact Or.inr rfl
    | one => exact Or.inl rfl
    | two => exact Or.inl rfl
  rw [(mark_of_head? (hhead _)).2.2.2]
  simpa using hwhole

end Reads

/-- A path text that begins with a dot or a bracket, and has neither blanks nor signs of
operators outside of its indexers, means the same as an operand.  A filter that asks for it
asks whether there is something at the steps that the text has behind a root, taken from the
node or from the root; and after two dots the filter asks it at every depth. -/
theorem parse_existence {tail : String} {path : Path}
    (htail : tail.toList.head? = some '.' ∨ tail.toList.head? = some '[')
    (hplain : ∀ c ∈ outsideIndexers tail,
      Text.isBlank c = false ∧ c ∉ ['=', '<', '!', '>', '|', '&'])
    (hpath : parse ("$" ++ tail) = .ok path) :
    parse ("[?(@" ++ tail ++ ")]") = .ok ⟨"[?(@" ++ tail ++ ")]",
        [.filter (.comparison .present (.path path.steps) none)]⟩ ∧
      parse ("[?($" ++ tail ++ ")]") = .ok ⟨"[?($" ++ tail ++ ")]",
        [.filter (.comparison .present (.path (.root :: path.steps)) none)]⟩ ∧
      parse ("..[?(@" ++ tail ++ ")]") = .ok ⟨"..[?(@" ++ tail ++ ")]",
        [.descendFilter (.comparison .present (.path path.steps) none)]⟩ ∧
      parse ("..[?($" ++ tail ++ ")]") = .ok ⟨"..[?($" ++ tail ++ ")]",
        [.descendFilter (.comparison .present (.path (.root :: path.steps)) none)]⟩ := by
  have hwhole : wholePath tail.toList = .ok path.steps := by
    have hread := readSteps_of_parse hpath
    rw [String.toList_append] at hread
    exact (mark_of_head? htail).2.2.1.symm.trans hread
  have hreads := reads_segments hwhole hplain
  have hnode : ∀ {descending dots}, BracketDots descending dots →
      readSteps (dots ++ '[' :: '?' :: '(' :: '@' :: (tail.toList ++ [')', ']'])) =
        .ok [if descending then .descendFilter (.comparison .present (.path path.steps) none)
          else .filter (.comparison .present (.path path.steps) none)] :=
    readSteps_existence '@' [] (fun _ _ => rfl) rfl (by decide) hreads
  have hroot : ∀ {descending dots}, BracketDots descending dots →
      readSteps (dots ++ '[' :: '?' :: '(' :: '$' :: (tail.toList ++ [')', ']'])) =
        .ok [if descending then
            .descendFilter (.comparison .present (.path (.root :: path.steps)) none)
          else .filter (.comparison .present (.path (.root :: path.steps)) none)] :=
    readSteps_existence '$' [.root] (fun _ _ => rfl) rfl (by decide) hreads
  refine ⟨parse_eq_ok_iff.2 ?_, parse_eq_ok_iff.2 ?_, parse_eq_ok_iff.2 ?_, parse_eq_ok_iff.2 ?_⟩
  · rw [String.toList_append, String.toList_append]
    exact hnode .none
  · rw [String.toList_append, String.toList_append]
    exact hroot .none
  · rw [String.toList_append, String.toList_append]
    exact hnode .two
  · rw [String.toList_append, String.toList_append]
    exact hroot .two

/-- Blanks and signs in the indexers of an operand do not end it. -/
theorem parse_existence_indexers :
    ∃ path, parse ("$" ++ "..a['b c'][?(@.x == 1)].d") = .ok path ∧ path.steps.length = 4 ∧
      parse ("[?(@" ++ "..a['b c'][?(@.x == 1)].d" ++ ")]") =
        .ok ⟨"[?(@..a['b c'][?(@.x == 1)].d)]",
          [.filter (.comparison .present (.path path.steps) none)]⟩ := by
  have hfound : ((parse ("$" ++ "..a['b c'][?(@.x == 1)].d")).toOption.any fun path =>
      path.steps.length == 4) = true := by
    decide +kernel
  have houtside : outsideIndexers "..a['b c'][?(@.x == 1)].d" = ['.', '.', 'a', '.', 'd'] := by
    decide +kernel
  have hplain : ∀ c ∈ outsideIndexers "..a['b c'][?(@.x == 1)].d",
      Text.isBlank c = false ∧ c ∉ ['=', '<', '!', '>', '|', '&'] := by
    simp [houtside, Text.isBlank]
  cases hpath : parse ("$" ++ "..a['b c'][?(@.x == 1)].d") with
  | error error =>
      rw [hpath] at hfound
      cases hfound
  | ok path =>
      rw [hpath] at hfound
      have htail : "..a['b c'][?(@.x == 1)].d".toList.head? = some '.' := by decide
      refine ⟨path, rfl, eq_of_beq hfound, ?_⟩
      exact (parse_existence (Or.inl htail) hplain hpath).1

end PathQuery.Path
