import PathQuery.Proofs.Path.Remainders
import PathQuery.Proofs.Path.Segments

/-!
# Reading in a longer text

A reader that stops before the end of a text has seen where its part ends, so it reads
the same if more follows behind the text, also with more rounds and a greater depth.  Only
the readers of segments may come to the end of a text: behind it they go on with what
follows.
-/

namespace PathQuery.Path

/-- If what one reader reads before the end of a text is read by another one in every
longer text. -/
def Extends {α : Type} (read read' : Reader α) : Prop :=
  ∀ ⦃text value rest⦄, read text = .ok (value, rest) → rest ≠ [] →
    ∀ more, read' (text ++ more) = .ok (value, rest ++ more)

section Results

variable {ε α β : Type}

theorem exists_of_bind_ok {result : Except ε α} {next : α → Except ε β} {value : β}
    (h : result >>= next = .ok value) : ∃ first, result = .ok first ∧ next first = .ok value := by
  cases result with
  | error failure => cases h
  | ok first => exact ⟨first, rfl, h⟩

theorem exists_of_map_ok {result : Except ε α} {f : α → β} {value : β}
    (h : result.map f = .ok value) : ∃ first, result = .ok first ∧ f first = value := by
  cases result with
  | error failure => cases h
  | ok first => exact ⟨first, rfl, Except.ok.inj h⟩

/-- The same branch is taken twice. -/
theorem ite_ok {condition : Prop} [Decidable condition] {first second : Except Failure α}
    {first' second' : Except Failure β} {value : α} {value' : β}
    (h : (if condition then first else second) = .ok value)
    (hfirst : first = .ok value → first' = .ok value')
    (hsecond : second = .ok value → second' = .ok value') :
    (if condition then first' else second') = .ok value' := by
  by_cases hcondition : condition
  · rw [if_pos hcondition] at h ⊢
    exact hfirst h
  · rw [if_neg hcondition] at h ⊢
    exact hsecond h

/-- What is computed from the value that a reader reads is computed in every longer text. -/
theorem Extends.map {read read' : Reader α} (hread : Extends read read') (f : α → β) :
    Extends (fun text => (read text).map fun found => (f found.1, found.2))
      (fun text => (read' text).map fun found => (f found.1, found.2)) := by
  intro text value rest h hrest more
  obtain ⟨⟨first, left⟩, hfirst, hshape⟩ := exists_of_map_ok h
  cases hshape
  simp only
  rw [hread hfirst hrest more]
  rfl

end Results

/-! ## Runs with more behind them -/

section Runs

variable {p : Char → Bool} {text : List Char}

theorem dropWhile_more (h : text.dropWhile p ≠ []) (more : List Char) :
    (text ++ more).dropWhile p = text.dropWhile p ++ more := by
  rw [List.dropWhile_append, if_neg (by simpa using h)]

theorem takeWhile_more (h : text.dropWhile p ≠ []) (more : List Char) :
    (text ++ more).takeWhile p = text.takeWhile p := by
  rw [List.takeWhile_append, if_neg]
  intro hlength
  have hparts := congrArg List.length (List.takeWhile_append_dropWhile (p := p) (l := text))
  rw [List.length_append, hlength] at hparts
  exact h (List.eq_nil_of_length_eq_zero (by omega))

theorem skipBlanks_more (h : Text.skipBlanks text ≠ []) (more : List Char) :
    Text.skipBlanks (text ++ more) = Text.skipBlanks text ++ more :=
  dropWhile_more h more

/-- What stands behind the blanks stands there with more behind it. -/
theorem skipBlanks_cons_more {c : Char} {rest : List Char} (h : Text.skipBlanks text = c :: rest)
    (more : List Char) : Text.skipBlanks (text ++ more) = c :: (rest ++ more) := by
  rw [skipBlanks_more (by rw [h]; exact List.cons_ne_nil c rest), h, List.cons_append]

end Runs

/-! ## Names, indices and constants -/

/-- A quoted string ends at its closing quote, and a backslash at the end of the text has none
behind it. -/
theorem quoted_more {text chars rest : List Char} (h : quoted text = .ok (chars, rest))
    (more : List Char) : quoted (text ++ more) = .ok (chars, rest ++ more) := by
  induction text using quoted.induct generalizing chars with
  | case1 => cases h
  | case2 after =>
      rw [quoted] at h
      cases h
      rw [List.cons_append, quoted]
  | case3 c after value hvalue ih =>
      rw [quoted, hvalue] at h
      obtain ⟨⟨chars', rest'⟩, hread, hshape⟩ := exists_of_map_ok h
      cases hshape
      rw [List.cons_append, List.cons_append, quoted, hvalue]
      simp only
      rw [ih hread]
      rfl
  | case4 c after hvalue =>
      rw [quoted, hvalue] at h
      cases h
  | case5 c after hquote hescape ih =>
      rw [quoted] at h
      · obtain ⟨⟨chars', rest'⟩, hread, hshape⟩ := exists_of_map_ok h
        cases hshape
        have hlast : c ≠ '\\' := by
          rintro rfl
          cases after with
          | nil => cases hread
          | cons d after => exact hescape d after rfl rfl
        rw [List.cons_append, quoted, ih hread]
        · rfl
        · exact hquote
        · exact fun d after hc => absurd hc hlast
      · exact hquote
      · exact hescape

theorem quotedNames_more {n n' : Nat} (hn : n ≤ n') {text : List Char} {names : List String}
    {rest : List Char} (h : quotedNames n text = .ok (names, rest)) (more : List Char) :
    quotedNames n' (text ++ more) = .ok (names, rest ++ more) := by
  induction n generalizing n' text names with
  | zero => cases h
  | succ n ih =>
      obtain ⟨n', rfl⟩ : ∃ m, n' = m + 1 := ⟨n' - 1, by omega⟩
      cases text with
      | nil => cases h
      | cons c text =>
          rw [quotedNames] at h
          rw [List.cons_append, quotedNames]
          split_ifs at h ⊢ with hquote
          · obtain ⟨⟨name, left⟩, hname, h⟩ := exists_of_bind_ok h
            rw [quoted_more hname]
            simp only [bind, Except.bind] at h ⊢
            split at h
            next => cases h
            next after hskip =>
              rw [skipBlanks_cons_more hskip]
              cases h
              rfl
            next after hskip =>
              obtain ⟨⟨others, left⟩, hothers, h⟩ := exists_of_bind_ok h
              cases h
              rw [skipBlanks_cons_more hskip]
              simp only
              rw [skipBlanks_more, ih (by omega) hothers]
              intro hnil
              rw [hnil] at hothers
              cases n <;> cases hothers
            next => cases h
          · cases h

/-- An index that is read does not depend on the text that would be blamed. -/
theorem readIndex_more {token text : List Char} {index : Int64}
    (h : readIndex token text = .ok index) (text' : List Char) :
    readIndex token text' = .ok index := by
  rw [readIndex] at h ⊢
  split at h
  next => exact h
  next => cases h

theorem readBound_more {token text : List Char} {bound : Option Int64}
    (h : readBound token text = .ok bound) (text' : List Char) :
    readBound token text' = .ok bound := by
  rw [readBound] at h ⊢
  split_ifs at h ⊢ with htoken
  · exact h
  · obtain ⟨index, hindex, rfl⟩ := exists_of_map_ok h
    rw [readIndex_more hindex]
    rfl

theorem close_more {form : IndexerForm} {token text rest : List Char} {step : Step}
    (h : form.close token text rest = .ok step) (text' rest' : List Char) :
    form.close token text' rest' = .ok step := by
  cases form with
  | single =>
      rw [IndexerForm.close] at h ⊢
      split_ifs at h ⊢
      · cases h
      · obtain ⟨index, hindex, rfl⟩ := exists_of_map_ok h
        rw [readIndex_more hindex]
        rfl
  | list indices =>
      rw [IndexerForm.close] at h ⊢
      split_ifs at h ⊢
      · cases h
      · obtain ⟨index, hindex, rfl⟩ := exists_of_map_ok h
        rw [readIndex_more hindex]
        rfl
  | sliceStop start =>
      rw [IndexerForm.close] at h ⊢
      obtain ⟨stop, hstop, rfl⟩ := exists_of_map_ok h
      rw [readBound_more hstop]
      rfl
  | sliceStride start stop =>
      rw [IndexerForm.close] at h ⊢
      obtain ⟨stride, hstride, rfl⟩ := exists_of_map_ok h
      rw [readBound_more hstride]
      rfl

/-- An array indexer ends at its closing bracket; behind a mark there must be more of it. -/
theorem arrayIndexer_more {n n' : Nat} (hn : n ≤ n') {form : IndexerForm} {text : List Char}
    {step : Step} {rest : List Char} (h : arrayIndexer n form text = .ok (step, rest))
    (more : List Char) : arrayIndexer n' form (text ++ more) = .ok (step, rest ++ more) := by
  induction n generalizing n' form text with
  | zero => cases h
  | succ n ih =>
      obtain ⟨n', rfl⟩ : ∃ m, n' = m + 1 := ⟨n' - 1, by omega⟩
      have hn : n ≤ n' := Nat.le_of_succ_le_succ hn
      have hskip_ne : Text.skipBlanks (text.dropWhile isIndexChar) ≠ [] := by
        intro hnil
        rw [arrayIndexer, hnil] at h
        cases h
      have hdrop_ne : text.dropWhile isIndexChar ≠ [] := by
        intro hnil
        rw [hnil] at hskip_ne
        exact hskip_ne rfl
      have hnext : ∀ {form' after},
          arrayIndexer n form' (Text.skipBlanks after) = .ok (step, rest) →
          arrayIndexer n' form' (Text.skipBlanks (after ++ more)) = .ok (step, rest ++ more) := by
        intro form' after hread
        rw [skipBlanks_more]
        · exact ih hn hread
        · intro hnil
          rw [hnil] at hread
          cases n <;> cases hread
      rw [arrayIndexer] at h
      rw [arrayIndexer, takeWhile_more hdrop_ne, dropWhile_more hdrop_ne]
      generalize text.takeWhile isIndexChar = token at h ⊢
      split at h
      next => cases h
      next after hskip =>
        rw [skipBlanks_cons_more hskip]
        obtain ⟨step', hclose, hshape⟩ := exists_of_map_ok h
        cases hshape
        simp only
        rw [close_more hclose]
        rfl
      next after hskip =>
        rw [skipBlanks_cons_more hskip]
        simp only
        split at h
        next =>
          obtain ⟨index, hindex, h⟩ := exists_of_bind_ok h
          rw [readIndex_more hindex]
          exact hnext h
        next => cases h
      next after hskip =>
        rw [skipBlanks_cons_more hskip]
        simp only
        split at h
        next =>
          obtain ⟨bound, hbound, h⟩ := exists_of_bind_ok h
          rw [readBound_more hbound]
          exact hnext h
        next => cases h
      next after hskip =>
        rw [skipBlanks_cons_more hskip]
        simp only
        split at h
        next hstar =>
          rw [if_pos hstar]
          split at h
          next => cases h
          next behind hclose =>
            rw [skipBlanks_cons_more hclose]
            cases h
            rfl
          next => cases h
        next => cases h
      next => cases h

theorem readNumber_extends : Extends readNumber readNumber := by
  intro text value rest h hrest more
  rw [readNumber] at h ⊢
  split at h
  next number hnumber =>
    cases h
    rw [takeWhile_more hrest, dropWhile_more hrest, hnumber]
  next => cases h

/-- The pattern of a regular expression ends at its closing slash, and a backslash at the end of
the text has none behind it. -/
theorem regexBody_more {text body rest : List Char} (h : regexBody text = some (body, rest))
    (more : List Char) : regexBody (text ++ more) = some (body, rest ++ more) := by
  induction text using regexBody.induct generalizing body with
  | case1 => cases h
  | case2 after =>
      rw [regexBody] at h
      cases h
      rw [List.cons_append, regexBody]
  | case3 c after ih =>
      rw [regexBody] at h
      obtain ⟨⟨body', rest'⟩, hbody, hshape⟩ := Option.map_eq_some_iff.1 h
      cases hshape
      rw [List.cons_append, List.cons_append, regexBody, ih hbody]
      rfl
  | case4 c after hslash hescape ih =>
      rw [regexBody] at h
      · obtain ⟨⟨body', rest'⟩, hbody, hshape⟩ := Option.map_eq_some_iff.1 h
        cases hshape
        have hlast : c ≠ '\\' := by
          rintro rfl
          cases after with
          | nil => cases hbody
          | cons d after => exact hescape d after rfl rfl
        rw [List.cons_append, regexBody, ih hbody]
        · rfl
        · exact hslash
        · exact fun d after hc => absurd hc hlast
      · exact hslash
      · exact hescape

theorem readRegex_extends : Extends readRegex readRegex := by
  intro text value rest h hrest more
  rw [readRegex] at h ⊢
  split at h
  next => cases h
  next body after hbody =>
    rw [regexBody_more hbody]
    simp only at h ⊢
    have hdrop : after.dropWhile Char.isAlpha ≠ [] := by
      intro hnil
      rw [hnil] at h
      split at h
      · cases h
        exact hrest rfl
      · cases h
    rw [takeWhile_more hdrop, dropWhile_more hdrop]
    split at h
    next =>
      cases h
      rfl
    next => cases h

theorem isPrefixOf_more {word text : List Char} (h : word.length ≤ text.length)
    (more : List Char) : word.isPrefixOf (text ++ more) = word.isPrefixOf text := by
  rw [Bool.eq_iff_iff, List.isPrefixOf_iff_prefix, List.isPrefixOf_iff_prefix]
  constructor
  · intro hfront
    exact List.prefix_of_prefix_length_le hfront (List.prefix_append text more) h
  · intro hfront
    exact hfront.trans (List.prefix_append text more)

theorem drop_more {word text : List Char} (h : word.isPrefixOf text = true) (more : List Char) :
    (text ++ more).drop word.length = text.drop word.length ++ more :=
  List.drop_append_of_le_length (List.isPrefixOf_iff_prefix.1 h).length_le

theorem readWord_extends (word : List Char) (value : Json) :
    Extends (readWord word value) (readWord word value) := by
  intro text operand rest h hrest more
  cases text with
  | nil => cases h
  | cons c after =>
      rw [readWord] at h
      split_ifs at h with hword
      · have hlength := (List.isPrefixOf_iff_prefix.1 hword).length_le
        cases h
        rw [← drop_more hword, List.cons_append, readWord, ← List.cons_append,
          isPrefixOf_more hlength, if_pos hword]
      · cases h

theorem closeParenthesis_more {text rest : List Char} (h : closeParenthesis text = .ok rest)
    (more : List Char) : closeParenthesis (text ++ more) = .ok (rest ++ more) := by
  rw [closeParenthesis.eq_def] at h
  split at h
  next => cases h
  next =>
    cases h
    rfl
  next => cases h

/-- Inside of a predicate something is left. -/
theorem skipInside_more {text rest : List Char} (h : skipInside text = .ok rest) :
    rest ≠ [] ∧ text ≠ [] ∧ ∀ more, skipInside (text ++ more) = .ok (rest ++ more) := by
  rw [skipInside] at h
  split at h
  next => cases h
  next hskip =>
    cases h
    refine ⟨hskip, ?_, ?_⟩
    · rintro rfl
      exact hskip rfl
    · intro more
      rw [skipInside, skipBlanks_more hskip]
      split
      next hnil => exact absurd (List.append_eq_nil_iff.1 hnil).1 hskip
      next => rfl

theorem length_sign_pos : ∀ sign ∈ operatorSigns, 0 < sign.1.length := by
  decide

/-- Only a sign of one character could be a part of a longer one that the end of a text
hides. -/
theorem find?_sign_more {text sign : List Char} {operator : Operator}
    (hfind : (operatorSigns.find? fun sign => sign.1.isPrefixOf text) = some (sign, operator))
    (hlonger : sign.length < text.length) (more : List Char) :
    (operatorSigns.find? fun sign => sign.1.isPrefixOf (text ++ more)) = some (sign, operator) := by
  have hmem := List.mem_of_find?_eq_some hfind
  have hfront : sign.isPrefixOf text = true := by simpa using List.find?_some hfind
  have hshort : ∀ sign ∈ operatorSigns, sign.1.length ≤ 1 → sign.1 = ['<'] ∨ sign.1 = ['>'] := by
    decide
  have hpos : 0 < sign.length := length_sign_pos _ hmem
  obtain _ | ⟨c, _ | ⟨d, _ | ⟨e, after⟩⟩⟩ := text
  · exact absurd hlonger (Nat.not_lt_zero _)
  · simp only [List.length_cons, List.length_nil] at hlonger
    omega
  · simp only [List.length_cons, List.length_nil] at hlonger
    rcases hshort _ hmem (Nat.le_of_lt_succ hlonger) with h | h
    · simp only at h
      subst h
      obtain rfl : '<' = c := by simpa using hfront
      exact hfind
    · simp only at h
      subst h
      obtain rfl : '>' = c := by simpa using hfront
      exact hfind
  · exact hfind

theorem readOperator_extends : Extends readOperator readOperator := by
  intro text operator rest h hrest more
  cases text with
  | nil => cases h
  | cons c after =>
      have hclose : c ≠ ']' := by
        rintro rfl
        cases h
      rw [readOperator] at h
      · split_ifs at h
        · cases h
        · split at h
          next sign operator' hfind =>
            cases h
            have hfront : sign.isPrefixOf (c :: after) = true := by
              simpa using List.find?_some hfind
            have hlonger : sign.length < (c :: after).length := by
              by_contra hshort
              exact hrest (List.drop_eq_nil_of_le (Nat.not_lt.1 hshort))
            have hpos : 0 < sign.length := length_sign_pos _ (List.mem_of_find?_eq_some hfind)
            rw [List.length_cons] at hlonger
            obtain ⟨d, after, rfl⟩ := List.exists_cons_of_length_pos (l := after) (by omega)
            rw [← drop_more hfront, List.cons_append, readOperator, ← List.cons_append,
              find?_sign_more hfind (by simpa using hlonger)]
            · rfl
            · exact hclose
          next => cases h
      · exact hclose

end PathQuery.Path
