import PathQuery.Proofs.Path.Continuation
import PathQuery.Proofs.Path.Indexers

/-!
# Blanks at the end of a text

What is read from a text with blanks at its end is read from the text without them as well,
and the blanks are left over.  No token takes them along, for no token has a blank in it
but a string and a pattern, which have a mark at their end.  So behind an open bracket or
an open predicate the blanks cannot take the place of what is missing.
-/

namespace PathQuery.Path

/-- What is read in front of some more text. -/
def leaving {α : Type} (more : List Char) (read : α × List Char) : α × List Char :=
  (read.1, read.2 ++ more)

/-- If whatever is read with blanks at the end of a text is read without them too, up to
what a function does with the blanks.  Where the text may dangle, it may instead end too
early without the blanks. -/
def Trims {α β : Type} (dangling : Prop) (f : α → β) (result : Except Failure α)
    (result' : Except Failure β) : Prop :=
  ∀ value', result' = .ok value' →
    (∃ value, value' = f value ∧ result = .ok value) ∨
      (dangling ∧ result = failAt .unexpectedEnd [])

section Results

variable {α β γ δ : Type} {dangling : Prop} {f : α → β} {g : γ → δ} {result : Except Failure α}
  {result' : Except Failure β}

theorem trims_ok (f : α → β) (value : α) : Trims dangling f (.ok value) (.ok (f value)) := by
  rintro _ ⟨⟩
  exact Or.inl ⟨value, rfl, rfl⟩

/-- Nothing is asked where nothing is read. -/
theorem trims_failAt {fault : Fault} {rest : List Char} :
    Trims dangling f result (failAt fault rest) := by
  rintro _ ⟨⟩

theorem trims_unexpected {context : Context} {c : Char} {rest : List Char} :
    Trims dangling f result (unexpected context c rest) :=
  trims_failAt

theorem trims_of_ne (h : ∀ value, result' ≠ .ok value) : Trims dangling f result result' :=
  fun value hvalue => absurd hvalue (h value)

/-- What does not depend on the text behind it is read with and without blanks there. -/
theorem trims_same {same : Except Failure α} (h : ∀ value, same = .ok value → result = .ok value) :
    Trims dangling id result same :=
  fun value hvalue => Or.inl ⟨value, rfl, h value hvalue⟩

theorem trims_ite {condition : Prop} [Decidable condition] {first second : Except Failure α}
    {first' second' : Except Failure β} (hfirst : condition → Trims dangling f first first')
    (hsecond : ¬condition → Trims dangling f second second') :
    Trims dangling f (if condition then first else second)
      (if condition then first' else second') := by
  by_cases h : condition
  · rw [if_pos h, if_pos h]
    exact hfirst h
  · rw [if_neg h, if_neg h]
    exact hsecond h

theorem Trims.mono {dangling' : Prop} (hresult : Trims dangling f result result')
    (h : dangling → dangling') : Trims dangling' f result result' :=
  fun value hvalue => (hresult value hvalue).imp_right fun hdangling =>
    ⟨h hdangling.1, hdangling.2⟩

theorem Trims.map (hresult : Trims dangling f result result') {k : α → γ} {k' : β → δ}
    (hk : ∀ value, k' (f value) = g (k value)) :
    Trims dangling g (result.map k) (result'.map k') := by
  intro found hfound
  obtain ⟨value', hvalue', rfl⟩ := exists_of_map_ok hfound
  rcases hresult value' hvalue' with ⟨value, rfl, rfl⟩ | ⟨hdangling, rfl⟩
  · exact Or.inl ⟨k value, hk value, rfl⟩
  · exact Or.inr ⟨hdangling, rfl⟩

theorem Trims.bind (hresult : Trims dangling f result result') {next : α → Except Failure γ}
    {next' : β → Except Failure δ}
    (hnext : ∀ value, result = .ok value → Trims dangling g (next value) (next' (f value))) :
    Trims dangling g (result >>= next) (result' >>= next') := by
  intro found hfound
  obtain ⟨value', hvalue', hfound⟩ := exists_of_bind_ok hfound
  rcases hresult value' hvalue' with ⟨value, rfl, rfl⟩ | ⟨hdangling, rfl⟩
  · exact hnext value rfl found hfound
  · exact Or.inr ⟨hdangling, rfl⟩

end Results

section Blanks

variable {blanks : List Char} (hblanks : Text.Blanks blanks) {dangling : Prop}

/-! ## Runs in front of blanks -/

theorem mem_of_isBlank {c : Char} (hc : Text.isBlank c = true) :
    c ∈ [' ', '\t', '\n', '\x0c', '\r'] := by
  simpa [Text.isBlank, or_assoc] using hc

/-- A kind of characters has no blank in it if it has none of the five. -/
theorem isBlank_of_kind {kind : Char → Bool}
    (hkind : [' ', '\t', '\n', '\x0c', '\r'].any kind = false) (c : Char)
    (hc : kind c = true) : Text.isBlank c = false := by
  by_contra h
  exact List.any_eq_false.1 hkind c (mem_of_isBlank (by simpa using h)) hc

theorem unescape?_blank {c : Char} (hc : Text.isBlank c = true) : unescape? c = none := by
  have hnone : [' ', '\t', '\n', '\x0c', '\r'].all (fun c => (unescape? c).isNone) = true := by
    decide
  exact Option.isNone_iff_eq_none.1 (List.all_eq_true.1 hnone c (mem_of_isBlank hc))

include hblanks

theorem ne_of_blank {b c : Char} {others : List Char} (hb : blanks = b :: others)
    (hc : Text.isBlank c = false) : b ≠ c := by
  rintro rfl
  rw [hblanks b (hb ▸ List.mem_cons_self)] at hc
  cases hc

/-- What is no blank stands in the text in front of the blanks. -/
theorem exists_cons_of_blanks {text rest' : List Char} {c : Char} (h : text ++ blanks = c :: rest')
    (hc : Text.isBlank c = false) : ∃ rest, text = c :: rest ∧ rest' = rest ++ blanks := by
  cases text with
  | nil => exact absurd rfl (ne_of_blank hblanks h hc)
  | cons d text =>
      obtain ⟨rfl, rfl⟩ := List.cons.inj h
      exact ⟨text, rfl, rfl⟩

theorem head?_blanks {text : List Char} {c : Char} (hc : Text.isBlank c = false)
    (h : text.head? ≠ some c) : (text ++ blanks).head? ≠ some c := by
  intro hhead
  obtain ⟨rest', hshape⟩ := List.head?_eq_some_iff.1 hhead
  obtain ⟨rest, rfl, _⟩ := exists_cons_of_blanks hblanks hshape hc
  exact h rfl

/-- A run of characters that are no blanks ends in front of the blanks. -/
theorem span_blanks {kind : Char → Bool} (hkind : ∀ c, kind c = true → Text.isBlank c = false)
    (text : List Char) :
    (text ++ blanks).takeWhile kind = text.takeWhile kind ∧
      (text ++ blanks).dropWhile kind = text.dropWhile kind ++ blanks := by
  induction text with
  | nil =>
      cases blanks with
      | nil => exact ⟨rfl, rfl⟩
      | cons b others =>
          have hb : ¬kind b = true := by
            intro hb
            have hblank := hkind b hb
            rw [hblanks b List.mem_cons_self] at hblank
            cases hblank
          exact ⟨List.takeWhile_cons_of_neg hb, List.dropWhile_cons_of_neg hb⟩
  | cons c text ih =>
      rw [List.cons_append, List.takeWhile_cons, List.takeWhile_cons, List.dropWhile_cons,
        List.dropWhile_cons, ih.1, ih.2]
      cases kind c with
      | true => exact ⟨rfl, rfl⟩
      | false => exact ⟨rfl, rfl⟩

/-- Behind the blanks in front of a text stands the same, unless there are only blanks. -/
theorem skipBlanks_cases (text : List Char) :
    (Text.skipBlanks text = [] ∧ Text.skipBlanks (text ++ blanks) = []) ∨
      ∃ c rest, Text.skipBlanks text = c :: rest ∧ c :: rest <:+ text ∧
        Text.skipBlanks (text ++ blanks) = c :: (rest ++ blanks) := by
  cases hskip : Text.skipBlanks text with
  | nil =>
      have htext : Text.Blanks text := fun c hc => List.dropWhile_eq_nil_iff.1 hskip c hc
      refine Or.inl ⟨rfl, Text.skipBlanks_blanks fun c hc => ?_⟩
      exact (List.mem_append.1 hc).elim (htext c) (hblanks c)
  | cons c rest =>
      exact Or.inr ⟨c, rest, rfl, hskip ▸ skipBlanks_suffix List.suffix_rfl,
        skipBlanks_cons_more hskip blanks⟩

/-- What stands behind blanks stands there without the blanks at the end. -/
theorem skipBlanks_cons_of_blanks {text rest' : List Char} {c : Char}
    (h : Text.skipBlanks (text ++ blanks) = c :: rest') :
    ∃ rest, Text.skipBlanks text = c :: rest ∧ c :: rest <:+ text ∧ rest' = rest ++ blanks := by
  rcases skipBlanks_cases hblanks text with ⟨_, hskip⟩ | ⟨d, rest, hskip, hsuffix, hskip'⟩
  · rw [hskip] at h
    cases h
  · rw [hskip'] at h
    cases h
    exact ⟨rest, hskip, hsuffix, rfl⟩

/-! ## Names and indices -/

/-- No string is closed by blanks. -/
theorem quoted_blanks (read : List Char × List Char) : quoted blanks ≠ .ok read := by
  induction blanks generalizing read with
  | nil => rintro ⟨⟩
  | cons b others ih =>
      have hb : Text.isBlank b = true := hblanks b List.mem_cons_self
      rw [quoted]
      · intro h
        obtain ⟨read', hread, _⟩ := exists_of_map_ok h
        exact ih (fun c hc => hblanks c (List.mem_cons_of_mem b hc)) read' hread
      · rintro rfl
        cases hb
      · rintro c rest rfl
        cases hb

/-- A quoted string is read without the blanks behind it; a blank behind a backslash is no
escape. -/
theorem quoted_trims (text : List Char) :
    Trims dangling (leaving blanks) (quoted text) (quoted (text ++ blanks)) := by
  fun_induction quoted text with
  | case1 => exact trims_of_ne (quoted_blanks hblanks)
  | case2 rest => exact trims_ok _ _
  | case3 c rest value hvalue ih =>
      rw [List.cons_append, List.cons_append, quoted, hvalue]
      exact ih.map fun _ => rfl
  | case4 c rest hvalue =>
      rw [List.cons_append, List.cons_append, quoted, hvalue]
      exact trims_failAt
  | case5 c rest hquote hescape ih =>
      by_cases hlast : c = '\\'
      · subst hlast
        cases rest with
        | cons d after => exact absurd rfl (hescape d after rfl)
        | nil =>
            cases blanks with
            | nil => exact trims_of_ne (by rintro _ ⟨⟩)
            | cons b others =>
                have hread : quoted ('\\' :: b :: others) =
                    failAt (.unknownEscape b) (b :: others) := by
                  rw [quoted, unescape?_blank (hblanks b List.mem_cons_self)]
                rw [List.singleton_append, hread]
                exact trims_failAt
      · rw [List.cons_append, quoted]
        · exact ih.map fun _ => rfl
        · exact hquote
        · exact fun d after hc => absurd hc hlast

/-- A reader that finds nothing in an empty text may skip blanks first. -/
theorem Trims.skip {α : Type} {read read' : Reader α} {text : List Char}
    (hnil : ∀ found, read' [] ≠ .ok found)
    (hread : ∀ c rest, c :: rest <:+ text →
      Trims dangling (leaving blanks) (read (c :: rest)) (read' (c :: rest ++ blanks))) :
    Trims dangling (leaving blanks) (read (Text.skipBlanks text))
      (read' (Text.skipBlanks (text ++ blanks))) := by
  rcases skipBlanks_cases hblanks text with ⟨_, hskip⟩ | ⟨c, rest, hskip, hsuffix, hskip'⟩
  · rw [hskip]
    exact trims_of_ne hnil
  · rw [hskip, hskip']
    exact hread c rest hsuffix

omit hblanks in
theorem quotedNames_nil (n : Nat) (read : List String × List Char) :
    quotedNames n [] ≠ .ok read := by
  cases n with
  | zero => rintro ⟨⟩
  | succ n => rintro ⟨⟩

theorem quotedNames_trims {n : Nat} (n' : Nat) {text : List Char} (hn : text.length ≤ n) :
    Trims dangling (leaving blanks) (quotedNames n text) (quotedNames n' (text ++ blanks)) := by
  induction n' generalizing n text with
  | zero => exact trims_failAt
  | succ n' ih =>
      cases text with
      | nil =>
          cases blanks with
          | nil => exact trims_failAt
          | cons b others =>
              rw [List.nil_append, quotedNames, if_neg (ne_of_blank hblanks rfl rfl)]
              exact trims_unexpected
      | cons c text =>
          rw [List.length_cons] at hn
          obtain ⟨n, rfl⟩ : ∃ m, n = m + 1 := ⟨n - 1, by omega⟩
          rw [quotedNames, List.cons_append, quotedNames]
          refine trims_ite (fun _ => ?_) fun _ => trims_unexpected
          refine (quoted_trims hblanks text).bind ?_
          rintro ⟨name, rest⟩ hname
          have hrest : rest <:+ text := by
            have hanchored := quoted_anchored text
            rwa [hname] at hanchored
          simp only [leaving]
          intro found h
          split at h
          next => cases h
          next hskip =>
            obtain ⟨after, hskip', _, rfl⟩ := skipBlanks_cons_of_blanks hblanks hskip
            rw [hskip']
            exact trims_ok _ _ found h
          next hskip =>
            obtain ⟨after, hskip', hafter, rfl⟩ := skipBlanks_cons_of_blanks hblanks hskip
            have hlength := (hafter.trans hrest).length_le
            rw [List.length_cons] at hlength
            have hread : Trims dangling (leaving blanks) (quotedNames n (Text.skipBlanks after))
                (quotedNames n' (Text.skipBlanks (after ++ blanks))) := by
              refine Trims.skip hblanks (quotedNames_nil n') fun d behind hbehind => ?_
              exact ih (Nat.le_trans hbehind.length_le (by omega))
            rw [hskip']
            refine Trims.bind hread ?_ found h
            exact fun _ _ => trims_ok _ _
          next => cases h

omit hblanks in
theorem arrayIndexer_nil (n : Nat) (form : IndexerForm) (read : Step × List Char) :
    arrayIndexer n form [] ≠ .ok read := by
  cases n with
  | zero => rintro ⟨⟩
  | succ n => rintro ⟨⟩

theorem arrayIndexer_trims {n : Nat} (n' : Nat) (form : IndexerForm) {text : List Char}
    (hn : text.length ≤ n) :
    Trims dangling (leaving blanks) (arrayIndexer n form text)
      (arrayIndexer n' form (text ++ blanks)) := by
  induction n' generalizing n form text with
  | zero => exact trims_failAt
  | succ n' ih =>
      have hkind : ∀ c, isIndexChar c = true → Text.isBlank c = false :=
        fun _ => isBlank_of_isIndexChar
      obtain ⟨htake, hdrop⟩ := span_blanks hblanks hkind text
      rw [arrayIndexer.eq_def (n' + 1)]
      simp only [htake, hdrop]
      rcases skipBlanks_cases hblanks (text.dropWhile isIndexChar) with
        ⟨_, hskip⟩ | ⟨c, rest, hskip, hsuffix, hskip'⟩
      · rw [hskip]
        exact trims_failAt
      · have hlength := (hsuffix.trans (List.dropWhile_suffix isIndexChar)).length_le
        rw [List.length_cons] at hlength
        obtain ⟨n, rfl⟩ : ∃ m, n = m + 1 := ⟨n - 1, by omega⟩
        have hnext : ∀ form', Trims dangling (leaving blanks)
            (arrayIndexer n form' (Text.skipBlanks rest))
            (arrayIndexer n' form' (Text.skipBlanks (rest ++ blanks))) := by
          intro form'
          refine Trims.skip hblanks (arrayIndexer_nil n' form') fun d after hafter => ?_
          exact ih form' (Nat.le_trans hafter.length_le (by omega))
        rw [arrayIndexer, hskip, hskip']
        split
        next hshape => cases hshape
        next hshape =>
          cases hshape
          refine Trims.map (trims_same fun step hstep => close_more hstep text (']' :: rest)) ?_
          exact fun _ => rfl
        next hshape =>
          cases hshape
          simp only
          split
          next =>
            refine (trims_same fun index hindex => readIndex_more hindex text).bind ?_
            exact fun index _ => hnext _
          next => exact trims_unexpected
        next hshape =>
          cases hshape
          simp only
          split
          next =>
            refine (trims_same fun bound hbound => readBound_more hbound text).bind ?_
            exact fun bound _ => hnext _
          next => exact trims_unexpected
        next hshape =>
          cases hshape
          refine trims_ite (fun _ => ?_) fun _ => trims_unexpected
          intro found h
          split at h
          next => cases h
          next hskip =>
            obtain ⟨after, hskip', _, rfl⟩ := skipBlanks_cons_of_blanks hblanks hskip
            rw [hskip']
            exact trims_ok _ _ found h
          next => cases h
        next hclose hcomma hcolon hstar hshape =>
          cases hshape
          split
          all_goals
            rename_i hshape
            cases hshape
          · exact absurd rfl hclose
          · exact absurd rfl hcomma
          · exact absurd rfl hcolon
          · exact absurd rfl hstar
          · exact trims_unexpected

/-! ## Constants and operators -/

theorem readNumber_trims (text : List Char) :
    Trims dangling (leaving blanks) (readNumber text) (readNumber (text ++ blanks)) := by
  have hkind : ∀ c, isNumberChar c = true → Text.isBlank c = false :=
    isBlank_of_kind (by decide)
  obtain ⟨htake, hdrop⟩ := span_blanks hblanks hkind text
  rw [readNumber, readNumber]
  simp only [htake, hdrop]
  split
  next => exact trims_ok _ _
  next => exact trims_failAt

/-- No pattern is closed by blanks. -/
theorem regexBody_blanks : regexBody blanks = none := by
  induction blanks using regexBody.induct with
  | case1 => rfl
  | case2 rest => exact absurd rfl (ne_of_blank hblanks rfl (by rfl))
  | case3 c rest ih => exact absurd rfl (ne_of_blank hblanks rfl (by rfl))
  | case4 c rest hslash hescape ih =>
      rw [regexBody, ih fun d hd => hblanks d (List.mem_cons_of_mem c hd)]
      · rfl
      · exact hslash
      · exact hescape

/-- The pattern of a regular expression is found without the blanks behind it; a backslash at the
end takes the first of them along, and there is no closing slash either way. -/
theorem regexBody_trims (text : List Char) :
    regexBody (text ++ blanks) = (regexBody text).map (leaving blanks) := by
  induction text using regexBody.induct with
  | case1 => exact regexBody_blanks hblanks
  | case2 rest => rfl
  | case3 c rest ih =>
      rw [List.cons_append, List.cons_append, regexBody, regexBody, ih, Option.map_map,
        Option.map_map]
      rfl
  | case4 c rest hslash hescape ih =>
      by_cases hlast : c = '\\'
      · subst hlast
        cases rest with
        | cons d after => exact absurd rfl (hescape d after rfl)
        | nil =>
            cases blanks with
            | nil => rfl
            | cons b others =>
                have hothers : Text.Blanks others :=
                  fun c hc => hblanks c (List.mem_cons_of_mem b hc)
                rw [List.singleton_append, regexBody, regexBody_blanks hothers]
                rfl
      · have hescape' : ∀ (d : Char) (after : List Char),
            c = '\\' → rest ++ blanks = d :: after → False :=
          fun d after hc => absurd hc hlast
        rw [List.cons_append, regexBody, regexBody, ih, Option.map_map, Option.map_map]
        · rfl
        · exact hslash
        · exact hescape
        · exact hslash
        · exact hescape'

theorem readRegex_trims (text : List Char) :
    Trims dangling (leaving blanks) (readRegex text) (readRegex (text ++ blanks)) := by
  rw [readRegex, readRegex, regexBody_trims hblanks]
  cases regexBody text with
  | none => exact trims_failAt
  | some found =>
      obtain ⟨body, rest⟩ := found
      have hkind : ∀ c, c.isAlpha = true → Text.isBlank c = false := isBlank_of_kind (by decide)
      obtain ⟨htake, hdrop⟩ := span_blanks hblanks hkind rest
      simp only [Option.map_some, leaving, htake, hdrop]
      split
      next => exact trims_ok _ _
      next => exact trims_failAt

/-- A word without blanks does not reach into the blanks. -/
theorem isPrefixOf_blanks {word : List Char} (hword : word.any Text.isBlank = false)
    (text : List Char) : word.isPrefixOf (text ++ blanks) = word.isPrefixOf text := by
  induction word generalizing text with
  | nil => rfl
  | cons c word ih =>
      rw [List.any_cons, Bool.or_eq_false_iff] at hword
      cases text with
      | cons d text => rw [List.cons_append, List.isPrefixOf, List.isPrefixOf, ih hword.2]
      | nil =>
          cases blanks with
          | nil => rfl
          | cons b others =>
              have hne : b ≠ c := ne_of_blank hblanks rfl hword.1
              simp [List.isPrefixOf, hne.symm]

theorem readWord_trims {word : List Char} (hword : word.any Text.isBlank = false)
    (value : Json) (c : Char) (text : List Char) :
    Trims dangling (leaving blanks) (readWord word value (c :: text))
      (readWord word value (c :: text ++ blanks)) := by
  rw [readWord, List.cons_append, readWord, ← List.cons_append, isPrefixOf_blanks hblanks hword]
  refine trims_ite (fun hfront => ?_) fun _ => trims_unexpected
  rw [drop_more hfront]
  exact trims_ok _ _

omit hblanks in
/-- No sign of an operator has a blank in it. -/
theorem signs_not_blank : ∀ sign ∈ operatorSigns, sign.1.any Text.isBlank = false := by
  decide

/-- The signs that begin a text begin it with blanks at its end too. -/
theorem find?_sign_blanks (text : List Char) :
    (operatorSigns.find? fun sign => sign.1.isPrefixOf (text ++ blanks)) =
      operatorSigns.find? fun sign => sign.1.isPrefixOf text := by
  have hsigns : ∀ signs : List (List Char × Operator), signs ⊆ operatorSigns →
      (signs.find? fun sign => sign.1.isPrefixOf (text ++ blanks)) =
        signs.find? fun sign => sign.1.isPrefixOf text := by
    intro signs hsubset
    induction signs with
    | nil => rfl
    | cons sign signs ih =>
        have hsign := signs_not_blank sign (hsubset List.mem_cons_self)
        rw [List.find?_cons, List.find?_cons, isPrefixOf_blanks hblanks hsign,
          ih (List.subset_of_cons_subset hsubset)]
  exact hsigns operatorSigns (List.Subset.refl _)

/-- An operator is read without the blanks behind it, unless its sign is the whole text. -/
theorem readOperator_trims {text rest' : List Char} {operator : Operator}
    (h : readOperator (text ++ blanks) = .ok (operator, rest')) :
    Text.Blanks rest' ∨
      ∃ rest, rest' = rest ++ blanks ∧ readOperator text = .ok (operator, rest) := by
  cases text with
  | nil =>
      cases blanks with
      | nil => cases h
      | cons b others =>
          have hnone : (operatorSigns.find? fun sign => sign.1.isPrefixOf (b :: others)) = none :=
            find?_sign_blanks hblanks []
          rw [List.nil_append, readOperator, hnone] at h
          · split_ifs at h
            · cases h
            · cases h
          · exact ne_of_blank hblanks rfl rfl
  | cons c after =>
      have hclose : c ≠ ']' := by
        rintro rfl
        cases h
      rw [List.cons_append, readOperator, ← List.cons_append, find?_sign_blanks hblanks] at h
      · split_ifs at h
        · cases h
        · split at h
          next sign operator' hfind =>
            cases h
            have hfront : sign.isPrefixOf (c :: after) = true := by
              simpa using List.find?_some hfind
            rw [drop_more hfront]
            by_cases hend : (after.isEmpty && c.utf8Size == 1) = true
            · rw [Bool.and_eq_true, List.isEmpty_iff] at hend
              have hpos := length_sign_pos _ (List.mem_of_find?_eq_some hfind)
              left
              rw [hend.1, List.drop_eq_nil_of_le hpos]
              exact hblanks
            · right
              refine ⟨_, rfl, ?_⟩
              rw [readOperator, if_neg hend, hfind]
              exact hclose
          next => cases h
      · exact hclose

/-! ## Indexers -/

theorem closeParenthesis_trims (text : List Char) :
    Trims dangling (· ++ blanks) (closeParenthesis text) (closeParenthesis (text ++ blanks)) := by
  rw [closeParenthesis.eq_def (text ++ blanks)]
  split
  next => exact trims_failAt
  next hshape =>
    obtain ⟨rest, rfl, rfl⟩ := exists_cons_of_blanks hblanks hshape rfl
    exact trims_ok (· ++ blanks) rest
  next => exact trims_unexpected

theorem skipInside_trims (text : List Char) :
    Trims dangling (· ++ blanks) (skipInside text) (skipInside (text ++ blanks)) := by
  rcases skipBlanks_cases hblanks text with ⟨_, hskip⟩ | ⟨c, rest, hskip, _, hskip'⟩
  · rw [skipInside, skipInside, hskip]
    exact trims_failAt
  · rw [skipInside, skipInside, hskip, hskip']
    exact trims_ok _ _

section Nested

variable {nested : Reader Condition}
  (htrims : ∀ text, Trims dangling (leaving blanks) (nested text) (nested (text ++ blanks)))

include htrims

theorem filterIndexer_trims (descending : Bool) (text : List Char) :
    Trims dangling (leaving blanks) (filterIndexer nested descending text)
      (filterIndexer nested descending (text ++ blanks)) := by
  rw [filterIndexer.eq_def nested descending (text ++ blanks)]
  split
  next => exact trims_failAt
  next hshape =>
    obtain ⟨after, rfl, rfl⟩ := exists_cons_of_blanks hblanks hshape rfl
    rw [filterIndexer]
    refine (htrims after).bind ?_
    rintro ⟨condition, left⟩ _
    refine (closeParenthesis_trims hblanks left).bind fun rest _ => ?_
    simp only
    intro found h
    split at h
    next => cases h
    next hskip =>
      obtain ⟨behind, hskip', _, rfl⟩ := skipBlanks_cons_of_blanks hblanks hskip
      rw [hskip']
      exact trims_ok _ _ found h
    next => cases h
  next => exact trims_unexpected

theorem indexer_trims (descending : Bool) (text : List Char) :
    Trims dangling (leaving blanks) (indexer nested descending text)
      (indexer nested descending (text ++ blanks)) := by
  rcases skipBlanks_cases hblanks text with ⟨_, hskip⟩ | ⟨c, rest, hskip, _, hskip'⟩
  · rw [indexer.eq_def nested descending (text ++ blanks), hskip]
    exact trims_failAt
  · by_cases hquote : c = '\''
    · subst hquote
      rw [indexer, indexer, hskip, hskip']
      have hrounds : ('\'' :: rest).length ≤ rest.length + 1 := Nat.le_refl _
      exact (quotedNames_trims hblanks _ hrounds).map fun _ => rfl
    · by_cases hquery : c = '?'
      · subst hquery
        rw [indexer, indexer, hskip, hskip']
        exact (filterIndexer_trims hblanks htrims descending rest).map fun _ => rfl
      · rw [indexer_other hskip hquote hquery, indexer_other hskip' hquote hquery,
          ← List.cons_append]
        exact (arrayIndexer_trims hblanks _ .single (Nat.le_refl _)).map fun _ => rfl

end Nested

end Blanks

end PathQuery.Path
