import PathQuery.Path.Reader
import PathQuery.Proofs.Number.NumeralText
import PathQuery.Proofs.Path.WellFormed
import PathQuery.Proofs.Runs

/-!
# The texts of the parts of a path

A value has many texts in a path: a character of a name may be escaped or not,
an index may begin with zeros, and blanks may stand around most parts.  The texts
of quoted names, indices, slices and operators are told here without a reader,
and each reader finds the value again in all of its texts.
-/

namespace PathQuery.Path

open Text

/-- The entries of a list, each in one of its texts, with a mark between them. -/
inductive Separated {α : Type} (IsText : α → List Char → Prop) (mark : Char) :
    List α → List Char → Prop
  | one {entry : α} {text : List Char} :
      IsText entry text → Separated IsText mark [entry] text
  | more {entry : α} {entries : List α} {text rest : List Char} :
      IsText entry text → Separated IsText mark entries rest →
      Separated IsText mark (entry :: entries) (text ++ mark :: rest)

/-! ## Quoted strings -/

/-- The characters that may follow a backslash, with what they stand for. -/
def escapes : List (Char × Char) :=
  [('b', '\x08'), ('t', '\t'), ('n', '\n'), ('f', '\x0c'), ('r', '\r'),
    ('\\', '\\'), ('"', '"'), ('\'', '\''), ('/', '/')]

/-- The texts of a string between its quotes: each character stands for itself,
unless it is a quote or a backslash, or is escaped. -/
inductive QuotedText : List Char → List Char → Prop
  | nil : QuotedText [] []
  | raw {c : Char} {value text : List Char} :
      c ≠ '\'' → c ≠ '\\' → QuotedText value text → QuotedText (c :: value) (c :: text)
  | escaped {letter c : Char} {value text : List Char} :
      (letter, c) ∈ escapes → QuotedText value text →
      QuotedText (c :: value) ('\\' :: letter :: text)

/-- The texts of a name in brackets. -/
def BracketName (name : String) (text : List Char) : Prop :=
  ∃ inner, QuotedText name.toList inner ∧ Spaced ('\'' :: (inner ++ ['\''])) text

theorem unescape?_of_mem_escapes
    {letter c : Char} (h : (letter, c) ∈ escapes) :
    unescape? letter = some c := by
  simp only [escapes, List.mem_cons, Prod.mk.injEq, List.not_mem_nil, or_false] at h
  rcases h with ⟨rfl, rfl⟩ | ⟨rfl, rfl⟩ | ⟨rfl, rfl⟩ | ⟨rfl, rfl⟩ | ⟨rfl, rfl⟩ | ⟨rfl, rfl⟩ |
    ⟨rfl, rfl⟩ | ⟨rfl, rfl⟩ | ⟨rfl, rfl⟩ <;> rfl

/-- A string is read from each of its texts, up to the quote that closes it. -/
theorem quoted_text
    {value text : List Char} (htext : QuotedText value text) (rest : List Char) :
    quoted (text ++ '\'' :: rest) = .ok (value, rest) := by
  induction htext with
  | nil => rw [List.nil_append, quoted]
  | @raw c value text hquote hbackslash _ ih =>
      rw [List.cons_append, quoted]
      · rw [ih]
        rfl
      · exact hquote
      · intro c' rest' hc
        exact absurd hc hbackslash
  | @escaped letter c value text hmem _ ih =>
      rw [List.cons_append, List.cons_append, quoted, unescape?_of_mem_escapes hmem]
      simp only [ih]
      rfl

/-- A name in brackets is read up to the blanks behind it. -/
theorem BracketName.read
    {name : String} {text : List Char} (hname : BracketName name text) :
    ∃ inner after, Blanks after ∧
      (∀ rest, skipBlanks (text ++ rest) = '\'' :: (inner ++ '\'' :: (after ++ rest))) ∧
      ∀ rest, quoted (inner ++ '\'' :: rest) = .ok (name.toList, rest) := by
  obtain ⟨inner, hinner, hspaced⟩ := hname
  obtain ⟨after, hafter, hskip⟩ := hspaced.skip (by decide)
  refine ⟨inner, after, hafter, ?_, quoted_text hinner⟩
  intro rest
  rw [hskip, List.append_assoc, List.singleton_append]

/-- The names of a bracket are read from each of their texts. -/
theorem quotedNames_text
    {names : List String} {text : List Char}
    (htext : Separated BracketName ',' names text) (rest : List Char) :
    ∀ rounds, (skipBlanks (text ++ ']' :: rest)).length ≤ rounds →
      quotedNames rounds (skipBlanks (text ++ ']' :: rest)) = .ok (names, ']' :: rest) := by
  induction htext with
  | @one name text hname =>
      intro rounds hrounds
      obtain ⟨inner, after, hafter, hskip, hread⟩ := hname.read
      rw [hskip] at hrounds ⊢
      obtain _ | rounds := rounds
      · simp at hrounds
      · have hbracket : skipBlanks (after ++ ']' :: rest) = ']' :: rest :=
          skipBlanks_mark hafter rfl rest
        rw [quotedNames, if_pos rfl, hread]
        simp only [bind, Except.bind, hbracket, String.ofList_toList]
  | @more name names text others hname _ ih =>
      intro rounds hrounds
      obtain ⟨inner, after, hafter, hskip, hread⟩ := hname.read
      rw [List.append_assoc, List.cons_append, hskip] at hrounds ⊢
      obtain _ | rounds := rounds
      · simp at hrounds
      · have hcomma : skipBlanks (after ++ ',' :: (others ++ ']' :: rest)) =
            ',' :: (others ++ ']' :: rest) :=
          skipBlanks_mark hafter rfl _
        have hfewer := length_skipBlanks_le (others ++ ']' :: rest)
        have hmore : (skipBlanks (others ++ ']' :: rest)).length ≤ rounds := by
          simp only [List.length_cons, List.length_append] at hrounds hfewer ⊢
          omega
        rw [quotedNames, if_pos rfl, hread]
        simp only [bind, Except.bind, hcomma, ih rounds hmore, String.ofList_toList]

/-! ## Indices and slices -/

/-- The texts of an index without blanks: digits, perhaps after a hyphen. -/
inductive IndexToken (index : Int64) : List Char → Prop
  | plain {digits : List Char} :
      Digits digits → (natValue digits : Int) = index.toInt → IndexToken index digits
  | negative {digits : List Char} :
      Digits digits → -(natValue digits : Int) = index.toInt → IndexToken index ('-' :: digits)

/-- The texts of a bound of a slice without blanks; an absent one has no text. -/
inductive BoundToken : Option Int64 → List Char → Prop
  | absent : BoundToken none []
  | present {index : Int64} {token : List Char} :
      IndexToken index token → BoundToken (some index) token

/-- The texts of an index. -/
def IndexText (index : Int64) (text : List Char) : Prop :=
  ∃ token, IndexToken index token ∧ Spaced token text

/-- The texts of a bound. -/
def BoundText (bound : Option Int64) (text : List Char) : Prop :=
  ∃ token, BoundToken bound token ∧ Spaced token text

/-- The texts of a step that an array indexer stands for. -/
inductive ArrayText : Step → List Char → Prop
  | every {text : List Char} :
      Spaced ['*'] text → ArrayText (.element none) text
  | single {index : Int64} {text : List Char} :
      IndexText index text → ArrayText (.element (some index)) text
  | list {indices : List Int64} {text : List Char} :
      Separated IndexText ',' indices text → ArrayText (.elements indices) text
  | slice {start stop : Option Int64} {startText stopText : List Char} :
      BoundText start startText → BoundText stop stopText →
      ArrayText (.slice start stop none) (startText ++ ':' :: stopText)
  | stride {start stop stride : Option Int64} {startText stopText strideText : List Char} :
      BoundText start startText → BoundText stop stopText → BoundText stride strideText →
      ArrayText (.slice start stop stride) (startText ++ ':' :: (stopText ++ ':' :: strideText))

theorem int64?_toInt (index : Int64) : int64? index.toInt = some index := by
  have hlow : -2 ^ 63 ≤ index.toInt := Int64.le_toInt index
  have hhigh : index.toInt < 2 ^ 63 := Int64.toInt_lt index
  rw [int64?, if_pos ⟨hlow, hhigh⟩, Int64.ofInt_toInt]

theorem index?_token
    {index : Int64} {token : List Char} (htoken : IndexToken index token) :
    index? token = some index := by
  cases htoken with
  | plain hdigits hvalue =>
      have hnonempty : token.isEmpty = false := by simp [hdigits.nonempty]
      have hall : token.all Char.isDigit = true := List.all_eq_true.mpr hdigits.all
      unfold index?
      split
      next digits =>
        exact absurd (hdigits.all '-' List.mem_cons_self) (by decide)
      next =>
        rw [hnonempty, hall, hvalue]
        exact int64?_toInt index
  | @negative digits hdigits hvalue =>
      have hnonempty : digits.isEmpty = false := by simp [hdigits.nonempty]
      have hall : digits.all Char.isDigit = true := List.all_eq_true.mpr hdigits.all
      rw [index?, hnonempty, hall, hvalue]
      exact int64?_toInt index

theorem IndexToken.isEmpty
    {index : Int64} {token : List Char} (htoken : IndexToken index token) :
    token.isEmpty = false := by
  cases htoken with
  | plain hdigits _ => simp [hdigits.nonempty]
  | negative _ _ => rfl

theorem IndexToken.chars
    {index : Int64} {token : List Char} (htoken : IndexToken index token) :
    ∀ c ∈ token, isIndexChar c = true := by
  intro c hc
  cases htoken with
  | plain hdigits _ => simp [isIndexChar, hdigits.all c hc]
  | negative hdigits _ =>
      rcases List.mem_cons.mp hc with rfl | hc
      · rfl
      · simp [isIndexChar, hdigits.all c hc]

theorem BoundToken.chars
    {bound : Option Int64} {token : List Char} (htoken : BoundToken bound token) :
    ∀ c ∈ token, isIndexChar c = true := by
  cases htoken with
  | absent => simp
  | present hindex => exact hindex.chars

theorem readIndex_token
    {index : Int64} {token : List Char} (htoken : IndexToken index token)
    (text : List Char) :
    readIndex token text = .ok index := by
  rw [readIndex, index?_token htoken]

theorem readBound_token
    {bound : Option Int64} {token : List Char} (htoken : BoundToken bound token)
    (text : List Char) :
    readBound token text = .ok bound := by
  cases htoken with
  | absent => rfl
  | present hindex =>
      rw [readBound, hindex.isEmpty, if_neg Bool.false_ne_true, readIndex_token hindex]
      rfl

/-- No blank belongs to an index. -/
theorem isBlank_of_isIndexChar {c : Char} (hc : isIndexChar c = true) : isBlank c = false := by
  by_contra hblank
  have hblank : isBlank c = true := by simpa using hblank
  simp only [isBlank, Bool.or_eq_true, beq_iff_eq] at hblank
  rcases hblank with (((rfl | rfl) | rfl) | rfl) | rfl <;> exact absurd hc (by decide)

/-- A text of a numeral begins like an index. -/
theorem exists_indexChar
    {numeral : Numeral} {text : List Char} (htext : numeral.IsText text) :
    ∃ c rest, text = c :: rest ∧ isIndexChar c = true := by
  obtain ⟨c, rest, rfl, hc⟩ := htext.exists_cons
  refine ⟨c, rest, rfl, ?_⟩
  rcases hc with hdigit | rfl
  · simp [isIndexChar, hdigit]
  · rfl

section Indexers

variable {token text : List Char}

/-- In front of a mark stand the characters of a token and then only blanks. -/
theorem scan_token
    (hspaced : Spaced token text) (htoken : ∀ c ∈ token, isIndexChar c = true) (mark : Char)
    (hmark : isIndexChar mark = false) (hblank : isBlank mark = false) (rest : List Char) :
    (skipBlanks (text ++ mark :: rest)).takeWhile isIndexChar = token ∧
      skipBlanks ((skipBlanks (text ++ mark :: rest)).dropWhile isIndexChar) = mark :: rest := by
  obtain ⟨before, after, hbefore, hafter, rfl⟩ := hspaced
  have hafterMark : skipBlanks (after ++ mark :: rest) = mark :: rest :=
    skipBlanks_mark hafter hblank rest
  rw [List.append_assoc, List.append_assoc, skipBlanks_append hbefore]
  cases token with
  | nil =>
      have hnoToken : ∀ c ∈ (mark :: rest).head?, isIndexChar c = false := by simpa using hmark
      rw [List.nil_append, hafterMark]
      constructor
      · exact takeWhile_run htoken hnoToken
      · have hdrop : (mark :: rest).dropWhile isIndexChar = mark :: rest :=
          dropWhile_run htoken hnoToken
        rw [hdrop, skipBlanks_cons hblank]
  | cons first others =>
      have hfirst : isBlank first = false :=
        isBlank_of_isIndexChar (htoken first List.mem_cons_self)
      have hbehind : ∀ c ∈ (after ++ mark :: rest).head?, isIndexChar c = false := by
        cases after with
        | nil => simpa using hmark
        | cons c more =>
            intro d hd
            have hd : c = d := by simpa using hd
            subst hd
            by_contra hindex
            have hblankHere := hafter c List.mem_cons_self
            rw [isBlank_of_isIndexChar (by simpa using hindex)] at hblankHere
            exact absurd hblankHere (by decide)
      rw [List.cons_append, skipBlanks_cons hfirst, ← List.cons_append]
      constructor
      · exact takeWhile_run htoken hbehind
      · rw [dropWhile_run htoken hbehind, hafterMark]

/-- A comma adds the index before it to the list of the indexer. -/
theorem arrayIndexer_comma
    {form : IndexerForm} {indices : List Int64} {index : Int64}
    (hform : form.indices? = some indices) (hindex : IndexText index text)
    (rounds : Nat) (rest : List Char) :
    arrayIndexer (rounds + 1) form (skipBlanks (text ++ ',' :: rest)) =
      arrayIndexer rounds (.list (indices ++ [index])) (skipBlanks rest) := by
  obtain ⟨token, htoken, hspaced⟩ := hindex
  obtain ⟨htake, hdrop⟩ := scan_token hspaced htoken.chars ',' rfl rfl rest
  rw [arrayIndexer]
  simp only [htake, hdrop, hform, htoken.isEmpty, readIndex_token htoken]
  rfl

/-- A colon makes the bound before it a part of a slice. -/
theorem arrayIndexer_colon
    {form : IndexerForm} {next : Option Int64 → IndexerForm} {bound : Option Int64}
    (hform : form.colon? = some next) (hbound : BoundText bound text)
    (rounds : Nat) (rest : List Char) :
    arrayIndexer (rounds + 1) form (skipBlanks (text ++ ':' :: rest)) =
      arrayIndexer rounds (next bound) (skipBlanks rest) := by
  obtain ⟨token, htoken, hspaced⟩ := hbound
  obtain ⟨htake, hdrop⟩ := scan_token hspaced htoken.chars ':' rfl rfl rest
  rw [arrayIndexer]
  simp only [htake, hdrop, hform, readBound_token htoken]
  rfl

/-- A closing bracket ends the indexer with the step of its form. -/
theorem arrayIndexer_close
    {form : IndexerForm} {step : Step}
    (hspaced : Spaced token text) (htoken : ∀ c ∈ token, isIndexChar c = true)
    (rounds : Nat) (rest : List Char)
    (hclose : ∀ place, form.close token place (']' :: rest) = .ok step) :
    arrayIndexer (rounds + 1) form (skipBlanks (text ++ ']' :: rest)) =
      .ok (step, ']' :: rest) := by
  obtain ⟨htake, hdrop⟩ := scan_token hspaced htoken ']' rfl rfl rest
  rw [arrayIndexer]
  simp only [htake, hdrop, hclose]
  rfl

end Indexers

theorem length_skipBlanks_mark_lt
    (text rest : List Char) (mark : Char) (hmark : isBlank mark = false) :
    (skipBlanks rest).length < (skipBlanks (text ++ mark :: rest)).length := by
  induction text with
  | nil =>
      rw [List.nil_append, skipBlanks_cons hmark]
      have hshorter := length_skipBlanks_le rest
      simp only [List.length_cons]
      omega
  | cons c others ih =>
      cases hc : isBlank c with
      | true =>
          have hskip : skipBlanks (c :: others ++ mark :: rest) =
              skipBlanks (others ++ mark :: rest) :=
            List.dropWhile_cons_of_pos hc
          rw [hskip]
          exact ih
      | false =>
          rw [List.cons_append, skipBlanks_cons hc]
          have hshorter := length_skipBlanks_le (others ++ mark :: rest)
          simp only [List.length_cons]
          omega

/-- Indices are read from each of their texts, behind those read before. -/
theorem arrayIndexer_indices
    {indices : List Int64} {text : List Char}
    (htext : Separated IndexText ',' indices text) (rest : List Char) :
    ∀ rounds found, (skipBlanks (text ++ ']' :: rest)).length ≤ rounds →
      arrayIndexer rounds (.list found) (skipBlanks (text ++ ']' :: rest)) =
        .ok (.elements (found ++ indices), ']' :: rest) := by
  induction htext with
  | @one index text hindex =>
      intro rounds found hrounds
      have hlong := length_skipBlanks_mark_lt text rest ']' rfl
      obtain ⟨token, htoken, hspaced⟩ := hindex
      obtain ⟨rounds, rfl⟩ : ∃ n, rounds = n + 1 := ⟨rounds - 1, by omega⟩
      refine arrayIndexer_close hspaced htoken.chars rounds rest ?_
      intro place
      rw [IndexerForm.close, htoken.isEmpty, if_neg Bool.false_ne_true,
        readIndex_token htoken]
      rfl
  | @more index indices text others hindex _ ih =>
      intro rounds found hrounds
      rw [List.append_assoc, List.cons_append] at hrounds ⊢
      have hlong := length_skipBlanks_mark_lt text (others ++ ']' :: rest) ',' rfl
      obtain ⟨rounds, rfl⟩ : ∃ n, rounds = n + 1 := ⟨rounds - 1, by omega⟩
      rw [arrayIndexer_comma rfl hindex, ih rounds _ (by omega), List.append_assoc,
        List.singleton_append]

/-- A step is read from each of the texts that an array indexer has for it. -/
theorem arrayIndexer_text
    {step : Step} {text : List Char}
    (htext : ArrayText step text) (hstep : (Part.step step).WellFormed) (rest : List Char) :
    ∀ rounds, (skipBlanks (text ++ ']' :: rest)).length ≤ rounds →
      arrayIndexer rounds .single (skipBlanks (text ++ ']' :: rest)) =
        .ok (step, ']' :: rest) := by
  intro rounds hrounds
  cases htext with
  | every hspaced =>
      obtain ⟨after, hafter, hskip⟩ := hspaced.skip (by decide)
      have hbracket : skipBlanks (after ++ ']' :: rest) = ']' :: rest :=
        skipBlanks_mark hafter rfl rest
      rw [hskip] at hrounds ⊢
      obtain _ | rounds := rounds
      · simp at hrounds
      · have hstar : skipBlanks ('*' :: (after ++ ']' :: rest)) = '*' :: (after ++ ']' :: rest) :=
          skipBlanks_cons rfl _
        obtain ⟨htake, hdrop⟩ := scan_token (Spaced.refl []) (by simp) '*' rfl rfl
          (after ++ ']' :: rest)
        rw [List.nil_append, hstar] at htake hdrop
        rw [List.nil_append, arrayIndexer]
        simp only [htake, hdrop, hbracket]
        rfl
  | @single index _ hindex =>
      have hlong := length_skipBlanks_mark_lt text rest ']' rfl
      obtain ⟨token, htoken, hspaced⟩ := hindex
      obtain ⟨rounds, rfl⟩ : ∃ n, rounds = n + 1 := ⟨rounds - 1, by omega⟩
      refine arrayIndexer_close hspaced htoken.chars rounds rest ?_
      intro place
      rw [IndexerForm.close, htoken.isEmpty, if_neg Bool.false_ne_true,
        readIndex_token htoken]
      rfl
  | list hindices =>
      cases hindices with
      | one _ => exact absurd hstep (by simp [Part.WellFormed])
      | @more index indices first others hindex hmore =>
          rw [List.append_assoc, List.cons_append] at hrounds ⊢
          have hlong := length_skipBlanks_mark_lt first (others ++ ']' :: rest) ',' rfl
          obtain ⟨rounds, rfl⟩ : ∃ n, rounds = n + 1 := ⟨rounds - 1, by omega⟩
          rw [arrayIndexer_comma rfl hindex, arrayIndexer_indices hmore rest rounds _ (by omega)]
          rfl
  | @slice start stop startText stopText hstart hstop =>
      rw [List.append_assoc, List.cons_append] at hrounds ⊢
      have hlong := length_skipBlanks_mark_lt startText (stopText ++ ']' :: rest) ':' rfl
      have hlonger := length_skipBlanks_mark_lt stopText rest ']' rfl
      obtain ⟨rounds, rfl⟩ : ∃ n, rounds = n + 2 := ⟨rounds - 2, by omega⟩
      rw [arrayIndexer_colon rfl hstart]
      obtain ⟨token, htoken, hspaced⟩ := hstop
      refine arrayIndexer_close hspaced htoken.chars rounds rest ?_
      intro place
      rw [IndexerForm.close, readBound_token htoken]
      rfl
  | @stride start stop stride startText stopText strideText hstart hstop hstride =>
      simp only [List.append_assoc, List.cons_append] at hrounds ⊢
      have hlong := length_skipBlanks_mark_lt startText
        (stopText ++ ':' :: (strideText ++ ']' :: rest)) ':' rfl
      have hlonger := length_skipBlanks_mark_lt stopText (strideText ++ ']' :: rest) ':' rfl
      have hlongest := length_skipBlanks_mark_lt strideText rest ']' rfl
      obtain ⟨rounds, rfl⟩ : ∃ n, rounds = n + 3 := ⟨rounds - 3, by omega⟩
      rw [arrayIndexer_colon rfl hstart, arrayIndexer_colon rfl hstop]
      obtain ⟨token, htoken, hspaced⟩ := hstride
      refine arrayIndexer_close hspaced htoken.chars rounds rest ?_
      intro place
      rw [IndexerForm.close, readBound_token htoken]
      rfl

/-! ## Operators -/

/-- The signs of an operator that compares; inequality has two. -/
inductive OperatorSign : Operator → List Char → Prop
  | symbol {operator : Operator} :
      operator ≠ .present → OperatorSign operator operator.symbol.toList
  | angles : OperatorSign .notEquals ['<', '>']

/-- An operator is read from its sign, where the sign does not go on. -/
theorem readOperator_sign
    {operator : Operator} {sign : List Char} (hsign : OperatorSign operator sign)
    {c : Char} (hc : c ∉ ['=', '>', '~']) (rest : List Char) :
    readOperator (sign ++ c :: rest) = .ok (operator, c :: rest) := by
  simp only [List.mem_cons, List.not_mem_nil, or_false, not_or] at hc
  obtain ⟨hequals, hangle, htilde⟩ := hc
  have hequals' : ('=' == c) = false := by simpa using Ne.symm hequals
  have hangle' : ('>' == c) = false := by simpa using Ne.symm hangle
  have htilde' : ('~' == c) = false := by simpa using Ne.symm htilde
  cases hsign with
  | angles => simp [readOperator, operatorSigns, List.isPrefixOf]
  | symbol hpresent =>
      cases operator with
      | present => exact absurd rfl hpresent
      | _ =>
          simp [readOperator, operatorSigns, Operator.symbol, List.isPrefixOf,
            -List.isPrefixOf_iff_prefix, hequals', hangle', htilde']

end PathQuery.Path
