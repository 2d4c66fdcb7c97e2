import PathQuery.Proofs.Path.Accepted
import PathQuery.Proofs.Path.Indexers
import PathQuery.Proofs.Path.Phrases

/-!
# What an array indexer accepts

The texts of an index, of several indices and of a slice are all that an array
indexer reads.  One loop reads the four forms, so what it has read so far tells
which texts may still follow; every round takes an index and a mark off such a
text.
-/

namespace PathQuery.Path

open Text

/-! ## Tokens -/

theorem toInt_of_int64? {value : Int} {index : Int64} (h : int64? value = some index) :
    index.toInt = value := by
  rw [int64?] at h
  split at h
  next hrange =>
    obtain rfl := Option.some.inj h
    exact Int64.toInt_ofInt_of_le hrange.1 hrange.2
  next => cases h

theorem digits_of_all {token : List Char}
    (h : (!token.isEmpty && token.all Char.isDigit) = true) : Digits token := by
  rw [Bool.and_eq_true, Bool.not_eq_true', List.isEmpty_eq_false_iff, List.all_eq_true] at h
  exact ⟨h.1, h.2⟩

/-- What denotes an index is one of its texts. -/
theorem indexToken_of_index? {token : List Char} {index : Int64} (h : index? token = some index) :
    IndexToken index token := by
  unfold index? at h
  split at h
  next digits =>
    split at h
    next hdigits => exact .negative (digits_of_all hdigits) (toInt_of_int64? h).symm
    next => cases h
  next =>
    split at h
    next hdigits => exact .plain (digits_of_all hdigits) (toInt_of_int64? h).symm
    next => cases h

theorem indexToken_of_readIndex {token place : List Char} {index : Int64}
    (h : readIndex token place = .ok index) : IndexToken index token := by
  rw [readIndex] at h
  split at h
  next found hfound =>
    obtain rfl := Except.ok.inj h
    exact indexToken_of_index? hfound
  next => cases h

theorem boundToken_of_readBound {token place : List Char} {bound : Option Int64}
    (h : readBound token place = .ok bound) : BoundToken bound token := by
  rw [readBound] at h
  split at h
  next hempty =>
    obtain rfl := Except.ok.inj h
    obtain rfl := List.isEmpty_iff.1 hempty
    exact .absent
  next =>
    obtain ⟨index, hindex, rfl⟩ := exists_of_map_ok h
    exact .present (indexToken_of_readIndex hindex)

/-- A text is parted into the token at its front, with blanks on either side, and the mark
behind it. -/
theorem exists_token {text rest : List Char} {mark : Char}
    (h : skipBlanks ((skipBlanks text).dropWhile isIndexChar) = mark :: rest) :
    ∃ part, text = part ++ mark :: rest ∧
      Spaced ((skipBlanks text).takeWhile isIndexChar) part := by
  obtain ⟨before, hbefore, htext⟩ := exists_blanks text
  obtain ⟨after, hafter, hbehind⟩ := exists_blanks ((skipBlanks text).dropWhile isIndexChar)
  rw [h] at hbehind
  refine ⟨before ++ ((skipBlanks text).takeWhile isIndexChar ++ after), ?_,
    before, after, hbefore, hafter, rfl⟩
  calc text
      = before ++ ((skipBlanks text).takeWhile isIndexChar ++
          (skipBlanks text).dropWhile isIndexChar) := by
        rw [List.takeWhile_append_dropWhile, ← htext]
    _ = before ++ ((skipBlanks text).takeWhile isIndexChar ++ after) ++ mark :: rest := by
        rw [hbehind, List.append_assoc, List.append_assoc]

/-! ## The rest of an indexer -/

/-- The texts up to the bracket that may follow what has been read of an indexer, each with
the step that the indexer then stands for. -/
inductive IndexerForm.Ends : IndexerForm → Step → List Char → Prop
  | single {step : Step} {text : List Char} :
      ArrayText step text → Ends .single step text
  | list {found indices : List Int64} {text : List Char} :
      Separated IndexText ',' indices text →
      Ends (.list found) (.elements (found ++ indices)) text
  | stop {start stop : Option Int64} {text : List Char} :
      BoundText stop text → Ends (.sliceStop start) (.slice start stop none) text
  | stopAndStride {start stop stride : Option Int64} {stopText strideText : List Char} :
      BoundText stop stopText → BoundText stride strideText →
      Ends (.sliceStop start) (.slice start stop stride) (stopText ++ ':' :: strideText)
  | stride {start stop stride : Option Int64} {text : List Char} :
      BoundText stride text → Ends (.sliceStride start stop) (.slice start stop stride) text

namespace IndexerForm

variable {form : IndexerForm} {step : Step} {token text more : List Char}

/-- At the bracket the last token ends the indexer. -/
theorem ends_of_close {place rest : List Char} (h : form.close token place rest = .ok step)
    (hspaced : Spaced token text) : form.Ends step text := by
  cases form with
  | single =>
      rw [close] at h
      split at h
      next => cases h
      next =>
        obtain ⟨index, hindex, rfl⟩ := exists_of_map_ok h
        exact .single (.single ⟨token, indexToken_of_readIndex hindex, hspaced⟩)
  | list found =>
      rw [close] at h
      split at h
      next => cases h
      next =>
        obtain ⟨index, hindex, rfl⟩ := exists_of_map_ok h
        exact .list (.one ⟨token, indexToken_of_readIndex hindex, hspaced⟩)
  | sliceStop start =>
      obtain ⟨stop, hstop, rfl⟩ := exists_of_map_ok h
      exact .stop ⟨token, boundToken_of_readBound hstop, hspaced⟩
  | sliceStride start stop =>
      obtain ⟨stride, hstride, rfl⟩ := exists_of_map_ok h
      exact .stride ⟨token, boundToken_of_readBound hstride, hspaced⟩

/-- An index and a comma may stand in front of more indices. -/
theorem Ends.comma {indices : List Int64} {index : Int64}
    (h : (IndexerForm.list (indices ++ [index])).Ends step more)
    (hform : form.indices? = some indices) (hindex : IndexText index text) :
    form.Ends step (text ++ ',' :: more) := by
  cases h with
  | @list _ others _ hothers =>
      rw [List.append_assoc, List.singleton_append]
      cases form with
      | single =>
          obtain rfl := Option.some.inj hform
          exact .single (.list (.more hindex hothers))
      | list found =>
          obtain rfl := Option.some.inj hform
          exact .list (.more hindex hothers)
      | sliceStop start => cases hform
      | sliceStride start stop => cases hform

/-- A star alone stands for every element. -/
theorem ends_of_star {behind : List Char} (hform : form.isSingle = true) (htext : Blanks text)
    (hbehind : Blanks behind) : form.Ends (.element none) (text ++ '*' :: behind) := by
  cases form with
  | single => exact .single (.every ⟨text, behind, htext, hbehind, rfl⟩)
  | list found => cases hform
  | sliceStop start => cases hform
  | sliceStride start stop => cases hform

/-- A bound and a colon may stand in front of the rest of a slice. -/
theorem Ends.colon {next : Option Int64 → IndexerForm} {bound : Option Int64}
    (h : (next bound).Ends step more) (hform : form.colon? = some next)
    (hbound : BoundText bound text) : form.Ends step (text ++ ':' :: more) := by
  cases form with
  | single =>
      obtain rfl := Option.some.inj hform
      cases h with
      | stop hstop => exact .single (.slice hbound hstop)
      | stopAndStride hstop hstride => exact .single (.stride hbound hstop hstride)
  | sliceStop start =>
      obtain rfl := Option.some.inj hform
      cases h with
      | stride hstride => exact .stopAndStride hbound hstride
  | list found => cases hform
  | sliceStride start stop => cases hform

end IndexerForm

/-- What an array indexer reads up to its bracket is a text of the step it answers. -/
theorem arrayIndexer_ends {rounds : Nat} {form : IndexerForm} {text left : List Char}
    {step : Step} (h : arrayIndexer rounds form (skipBlanks text) = .ok (step, left)) :
    ∃ inside after, text = inside ++ ']' :: after ∧ left = ']' :: after ∧
      form.Ends step inside := by
  induction rounds generalizing form text with
  | zero => cases h
  | succ rounds ih =>
      rw [arrayIndexer] at h
      split at h
      next => cases h
      next after hmark =>
        obtain ⟨part, htext, hspaced⟩ := exists_token hmark
        obtain ⟨closed, hclose, hshape⟩ := exists_of_map_ok h
        cases hshape
        exact ⟨part, after, htext, rfl, IndexerForm.ends_of_close hclose hspaced⟩
      next rest hmark =>
        obtain ⟨part, htext, hspaced⟩ := exists_token hmark
        split at h
        next indices hform _ =>
          obtain ⟨index, hindex, hmore⟩ := exists_of_bind_ok h
          obtain ⟨inside, after, rfl, hleft, hends⟩ := ih hmore
          refine ⟨part ++ ',' :: inside, after, ?_, hleft, ?_⟩
          · rw [htext, List.append_assoc, List.cons_append]
          · exact hends.comma hform ⟨_, indexToken_of_readIndex hindex, hspaced⟩
        next => cases h
      next rest hmark =>
        obtain ⟨part, htext, hspaced⟩ := exists_token hmark
        split at h
        next next hform =>
          obtain ⟨bound, hbound, hmore⟩ := exists_of_bind_ok h
          obtain ⟨inside, after, rfl, hleft, hends⟩ := ih hmore
          refine ⟨part ++ ':' :: inside, after, ?_, hleft, ?_⟩
          · rw [htext, List.append_assoc, List.cons_append]
          · exact hends.colon hform ⟨_, boundToken_of_readBound hbound, hspaced⟩
        next => cases h
      next rest hmark =>
        obtain ⟨part, htext, hspaced⟩ := exists_token hmark
        split at h
        next hform =>
          split at h
          next => cases h
          next after hbracket =>
            cases h
            rw [Bool.and_eq_true, List.isEmpty_iff] at hform
            obtain ⟨behind, hbehind, hrest⟩ := exists_blanks rest
            rw [hbracket] at hrest
            rw [hform.2] at hspaced
            refine ⟨part ++ '*' :: behind, after, ?_, rfl, ?_⟩
            · rw [htext, hrest, List.append_assoc, List.cons_append]
            · exact IndexerForm.ends_of_star hform.1 (blanks_of_spaced_nil hspaced) hbehind
          next => cases h
        next => cases h
      next => cases h

/-! ## Brackets alone -/

/-- A mark that a text does not hold ends it. -/
theorem eq_of_append_mark {text inside after : List Char} {mark : Char} (htext : mark ∉ text)
    (h : text ++ [mark] = inside ++ mark :: after) : inside = text ∧ after = [] := by
  rcases List.append_eq_append_iff.1 h with ⟨more, hinside, hmark⟩ | ⟨more, hshorter, hmark⟩
  · cases more with
    | nil => exact ⟨by rw [hinside, List.append_nil], (List.cons.inj hmark).2.symm⟩
    | cons c others => simp at hmark
  · cases more with
    | nil => exact ⟨by rw [hshorter, List.append_nil], (List.cons.inj hmark).2⟩
    | cons c others =>
        obtain ⟨rfl, -⟩ := List.cons.inj hmark
        exact absurd (hshorter ▸ by simp) htext

/-- A path of one bracket has the steps of the indexer in it. -/
theorem readSteps_bracket {text : List Char}
    (hend : ∀ nested found rest, indexer nested false text = .ok (found, rest) → rest = [']']) :
    readSteps ('[' :: text) = (indexer (predicate (text.length + 1)) false text).map Prod.fst := by
  rw [readSteps_of_ne (skipBlanks_cons rfl text) (by decide), wholePath, List.length_cons]
  cases hindexer : indexer (predicate (text.length + 1)) false text with
  | error failure =>
      have hname : NoName false ('[' :: text) := by simp [NoName, isNameChar]
      rw [segments_noName hname, segmentsAtMark, hindexer]
      rfl
  | ok read =>
      obtain ⟨found, rest⟩ := read
      obtain rfl := hend _ _ _ hindexer
      have hnothing : segments (predicate (text.length + 1)) false text.length false .indexer [] =
          .ok ([], []) :=
        segments_end (by simp [NoName]) (by simp) (by simp) (by decide) _ _
      rw [segments_bracket hindexer, hnothing]
      simp [Except.map, behind, bind, Except.bind, skipBlanks]

section Brackets

variable {text : List Char}

/-- A bracket without a name or a filter holds an array indexer. -/
theorem indexer_brackets (nested : Reader Condition)
    (hhead : ∀ c ∈ (skipBlanks text).head?, c ≠ '\'' ∧ c ≠ '?') :
    indexer nested false (text ++ [']']) =
      (arrayIndexer (skipBlanks (text ++ [']'])).length .single (skipBlanks (text ++ [']']))).map
        fun read => ([read.1], read.2) := by
  have hfirst : ∃ c rest, skipBlanks (text ++ [']']) = c :: rest ∧ c ≠ '\'' ∧ c ≠ '?' := by
    cases hskip : skipBlanks text with
    | nil =>
        obtain ⟨before, hbefore, htext⟩ := exists_blanks text
        rw [hskip, List.append_nil] at htext
        exact ⟨']', [], by rw [htext, skipBlanks_mark hbefore rfl], by decide, by decide⟩
    | cons c rest =>
        exact ⟨c, rest ++ [']'], skipBlanks_cons_more hskip _, hhead c (by simp [hskip])⟩
  obtain ⟨c, rest, hskip, hquote, hquestion⟩ := hfirst
  rw [indexer_other hskip hquote hquestion, hskip]
  rfl

/-- The paths of one bracket without a name or a filter are the texts of what an array indexer
stands for. -/
theorem readSteps_brackets_iff (hclosed : ']' ∉ text)
    (hhead : ∀ c ∈ (skipBlanks text).head?, c ≠ '\'' ∧ c ≠ '?') {steps : List Step} :
    readSteps ('[' :: (text ++ [']'])) = .ok steps ↔
      ∃ step, steps = [step] ∧ ArrayText step text ∧ (Part.step step).WellFormed := by
  have hend : ∀ nested found rest, indexer nested false (text ++ [']']) = .ok (found, rest) →
      rest = [']'] := by
    intro nested found rest h
    rw [indexer_brackets nested hhead] at h
    obtain ⟨⟨step, left⟩, harray, hshape⟩ := exists_of_map_ok h
    obtain ⟨inside, after, htext, hleft, -⟩ := arrayIndexer_ends harray
    cases hshape
    rw [hleft, (eq_of_append_mark hclosed htext).2]
  rw [readSteps_bracket hend, indexer_brackets _ hhead]
  constructor
  · intro h
    obtain ⟨found, hindexer, rfl⟩ := exists_of_map_ok h
    obtain ⟨⟨step, left⟩, harray, rfl⟩ := exists_of_map_ok hindexer
    obtain ⟨inside, after, htext, -, hends⟩ := arrayIndexer_ends harray
    obtain ⟨rfl, -⟩ := eq_of_append_mark hclosed htext
    have hwell : WellFormedSteps [step] :=
      (arrayIndexer_writable IndexerForm.noConfusion harray).wellFormed
    cases hends with
    | single hinside =>
        refine ⟨step, rfl, hinside, hwell.parts _ ?_⟩
        rw [partsOfSteps]
        exact List.mem_append_left _ step.mem_parts_self
  · rintro ⟨step, rfl, htext, hstep⟩
    rw [arrayIndexer_text htext hstep [] _ (Nat.le_refl _)]
    rfl

/-! ## The four forms -/

theorem arrayText_every_iff : ArrayText (.element none) text ↔ Spaced ['*'] text := by
  constructor
  · rintro ⟨h⟩
    exact h
  · exact .every

theorem arrayText_single_iff {index : Int64} :
    ArrayText (.element (some index)) text ↔ IndexText index text := by
  constructor
  · intro h
    cases h with
    | single hindex => exact hindex
  · exact .single

theorem arrayText_list_iff {indices : List Int64} :
    ArrayText (.elements indices) text ↔ Separated IndexText ',' indices text := by
  constructor
  · intro h
    cases h with
    | list hindices => exact hindices
  · exact .list

/-- A slice has two bounds, or a stride behind them. -/
theorem arrayText_slice_iff {start stop stride : Option Int64} :
    ArrayText (.slice start stop stride) text ↔
      (stride = none ∧ Separated BoundText ':' [start, stop] text) ∨
        Separated BoundText ':' [start, stop, stride] text := by
  constructor
  · intro h
    cases h with
    | slice hstart hstop => exact Or.inl ⟨rfl, .more hstart (.one hstop)⟩
    | stride hstart hstop hstride => exact Or.inr (.more hstart (.more hstop (.one hstride)))
  · rintro (⟨rfl, h⟩ | h)
    · cases h with
      | more hstart hrest =>
          cases hrest with
          | one hstop => exact .slice hstart hstop
          | more _ hnone => cases hnone
    · cases h with
      | more hstart hrest =>
          cases hrest with
          | more hstop hlast =>
              cases hlast with
              | one hstride => exact .stride hstart hstop hstride
              | more _ hnone => cases hnone

end Brackets

/-- What an array indexer accepts: a star, an index, several indices with commas between them,
or two or three bounds with colons between them, with blanks around each.  A bracket that holds
none of these, no name and no filter is no path. -/
theorem parse_brackets_iff (x : String) (hclosed : ']' ∉ x.toList)
    (hhead : ∀ c ∈ (skipBlanks x.toList).head?, c ≠ '\'' ∧ c ≠ '?') :
    (parse ("[" ++ x ++ "]") = .ok ⟨"[" ++ x ++ "]", [.element none]⟩ ↔ Spaced ['*'] x.toList) ∧
    (∀ index, parse ("[" ++ x ++ "]") = .ok ⟨"[" ++ x ++ "]", [.element (some index)]⟩ ↔
      IndexText index x.toList) ∧
    (∀ indices, parse ("[" ++ x ++ "]") = .ok ⟨"[" ++ x ++ "]", [.elements indices]⟩ ↔
      2 ≤ indices.length ∧ Separated IndexText ',' indices x.toList) ∧
    (∀ start stop stride,
      parse ("[" ++ x ++ "]") = .ok ⟨"[" ++ x ++ "]", [.slice start stop stride]⟩ ↔
        (stride = none ∧ Separated BoundText ':' [start, stop] x.toList) ∨
          Separated BoundText ':' [start, stop, stride] x.toList) ∧
    (¬Spaced ['*'] x.toList →
      (∀ index, ¬IndexText index x.toList) →
      (∀ indices, 2 ≤ indices.length → ¬Separated IndexText ',' indices x.toList) →
      (∀ start stop, ¬Separated BoundText ':' [start, stop] x.toList) →
      (∀ start stop stride, ¬Separated BoundText ':' [start, stop, stride] x.toList) →
      ∃ error, parse ("[" ++ x ++ "]") = .error error) := by
  have htext : ("[" ++ x ++ "]").toList = '[' :: (x.toList ++ [']']) := by
    rw [String.toList_append, String.toList_append]
    rfl
  have hsteps : ∀ steps, parse ("[" ++ x ++ "]") = .ok ⟨"[" ++ x ++ "]", steps⟩ ↔
      ∃ step, steps = [step] ∧ ArrayText step x.toList ∧ (Part.step step).WellFormed := by
    intro steps
    rw [parse_eq_ok_iff, htext]
    exact readSteps_brackets_iff hclosed hhead
  have hstep : ∀ step, parse ("[" ++ x ++ "]") = .ok ⟨"[" ++ x ++ "]", [step]⟩ ↔
      ArrayText step x.toList ∧ (Part.step step).WellFormed := by
    intro step
    rw [hsteps]
    constructor
    · rintro ⟨_, hsame, h⟩
      obtain rfl := List.singleton_inj.1 hsame
      exact h
    · exact fun h => ⟨step, rfl, h⟩
  refine ⟨?_, ?_, ?_, ?_, ?_⟩
  · rw [hstep, arrayText_every_iff]
    exact and_iff_left trivial
  · intro index
    rw [hstep, arrayText_single_iff]
    exact and_iff_left trivial
  · intro indices
    rw [hstep, arrayText_list_iff]
    exact and_comm
  · intro start stop stride
    rw [hstep, arrayText_slice_iff]
    exact and_iff_left trivial
  · intro hevery hsingle hlist hslice hstride
    cases hread : parse ("[" ++ x ++ "]") with
    | error error => exact ⟨error, rfl⟩
    | ok path =>
        obtain ⟨step, -, hinside, hwell⟩ :=
          (hsteps path.steps).1 (parse_eq_ok_iff.2 (readSteps_of_parse hread))
        generalize x.toList = text at hinside hevery hsingle hlist hslice hstride
        cases hinside with
        | every h => exact absurd h hevery
        | single h => exact absurd h (hsingle _)
        | list h => exact absurd h (hlist _ hwell)
        | slice hstart hstop => exact absurd (.more hstart (.one hstop)) (hslice _ _)
        | stride hstart hstop hbehind =>
            exact absurd (.more hstart (.more hstop (.one hbehind))) (hstride _ _ _)

/-- Several entries have a mark between them. -/
theorem Separated.mark_mem {α : Type} {IsText : α → List Char → Prop} {mark : Char}
    {entries : List α} {text : List Char} (h : Separated IsText mark entries text)
    (hentries : 2 ≤ entries.length) : mark ∈ text := by
  cases h with
  | one _ => simp at hentries
  | more _ _ => simp

/-- Blanks may stand around the bounds of a slice, but an empty bracket is no path. -/
theorem parse_brackets_slice :
    parse ("[" ++ " -1 :\t: 02" ++ "]") =
        .ok ⟨"[" ++ " -1 :\t: 02" ++ "]", [.slice (some (-1)) none (some 2)]⟩ ∧
      ∃ error, parse ("[" ++ "" ++ "]") = .error error := by
  constructor
  · have hstart : BoundText (some (-1)) [' ', '-', '1', ' '] :=
      ⟨['-', '1'], .present (.negative (digits_of_all (by decide)) (by decide)),
        [' '], [' '], by decide, by decide, rfl⟩
    have hstop : BoundText none ['\t'] :=
      ⟨[], .absent, ['\t'], [], by decide, by decide, rfl⟩
    have hstride : BoundText (some 2) [' ', '0', '2'] :=
      ⟨['0', '2'], .present (.plain (digits_of_all (by decide)) (by decide)),
        [' '], [], by decide, by decide, rfl⟩
    have hhead : ∀ c ∈ (skipBlanks " -1 :\t: 02".toList).head?, c ≠ '\'' ∧ c ≠ '?' := by
      intro c hc
      obtain rfl : '-' = c := Option.some.inj hc
      decide
    exact ((parse_brackets_iff " -1 :\t: 02" (by decide) hhead).2.2.2.1 _ _ _).2
      (Or.inr (.more hstart (.more hstop (.one hstride))))
  · have hhead : ∀ c ∈ (skipBlanks "".toList).head?, c ≠ '\'' ∧ c ≠ '?' := nofun
    refine (parse_brackets_iff "" (by decide) hhead).2.2.2.2 ?_ ?_ ?_ ?_ ?_
    · intro h
      exact absurd h.length_le (by decide)
    · rintro index ⟨token, htoken, hspaced⟩
      have hempty : token = [] := List.eq_nil_of_length_eq_zero (Nat.le_zero.1 hspaced.length_le)
      rw [hempty] at htoken
      exact absurd htoken.isEmpty (by decide)
    · intro indices hindices h
      exact List.not_mem_nil (h.mark_mem hindices)
    · intro start stop h
      exact List.not_mem_nil (h.mark_mem (by simp))
    · intro start stop stride h
      exact List.not_mem_nil (h.mark_mem (by simp))

end PathQuery.Path
