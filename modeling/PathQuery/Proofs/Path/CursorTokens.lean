import PathQuery.Proofs.Path.Bytes
import PathQuery.Proofs.Path.Remainders

/-!
# What a cursor reads in tokens

A cursor that stands at an end of a text reads what the reader of the grammar reads
there: it answers the same value or the same fault, and it comes to the place at which
the rest of the text begins.  In particular it has an answer, so each cut is within
bounds and between characters.  This module follows the cursor through quoted names,
array indexers, numbers, regular expressions and operators.
-/

namespace PathQuery.Path

/-- The outcome of a reader, with places for what is left of the text and for what is
blamed. -/
def placed {α : Type} (text : List Char) (outcome : Except Failure (α × List Char)) :
    Option (Except ParseError (α × Nat)) :=
  some (match outcome with
    | .ok (value, rest) => .ok (value, placeOf text rest)
    | .error failure => .error (failure.locate text))

section Placed

variable {α β : Type} {text : List Char}

/-- A cursor that follows a reader goes on where the reader stops. -/
theorem bind_placed {scan : Scan α} {next : α → Scan β} {place : Nat}
    {outcome : Except Failure (α × List Char)} {whole : List Char} {good : α × List Char → Prop}
    {after : α × List Char → Except Failure (β × List Char)}
    (hscan : scan place = placed text outcome) (hgood : Anchored whole good outcome)
    (hnext : ∀ value rest, good (value, rest) →
      next value (placeOf text rest) = placed text (after (value, rest))) :
    (scan >>= next) place = placed text (outcome >>= after) := by
  cases outcome with
  | error failure => exact Scan.bind_of_error hscan
  | ok read => exact (Scan.bind_of_ok hscan).trans (hnext read.1 read.2 hgood)

/-- A cursor that follows a reader gives the value of the reader to a function. -/
theorem map_placed {scan : Scan α} {place : Nat} {outcome : Except Failure (α × List Char)}
    {f : α → β} (hscan : scan place = placed text outcome) :
    (scan >>= fun value => pure (f value)) place =
      placed text (outcome.map fun read => (f read.1, read.2)) := by
  cases outcome with
  | error failure => exact Scan.bind_of_error hscan
  | ok read => exact Scan.bind_of_ok hscan

end Placed

namespace Cursor

open Scan

variable {text rest : List Char}

/-! ## What stands at the cursor -/

theorem peek_head (h : rest <:+ text) :
    peek text (placeOf text rest) = some (.ok (rest.head?.map lead, placeOf text rest)) := by
  rw [peek, byteAt_head h]

theorem peek_nil : peek text (placeOf text []) = some (.ok (none, placeOf text [])) :=
  peek_head List.nil_suffix

theorem peek_cons {c : Char} (h : c :: rest <:+ text) :
    peek text (placeOf text (c :: rest)) =
      some (.ok (some (lead c), placeOf text (c :: rest))) :=
  peek_head h

theorem peek_ascii {c : Char} (hc : c.toNat < 128) (h : c :: rest <:+ text) :
    peek text (placeOf text (c :: rest)) = some (.ok (some c, placeOf text (c :: rest))) := by
  rw [peek_cons h, lead_of_ascii hc]

theorem current_cons {c : Char} (h : c :: rest <:+ text) :
    current text (placeOf text (c :: rest)) = some (.ok (c, placeOf text (c :: rest))) := by
  rw [current, charAt?_placeOf h]
  rfl

theorem unexpected_cons {α : Type} (context : Context) {c : Char} (h : c :: rest <:+ text) :
    (Cursor.unexpected text context : Scan α) (placeOf text (c :: rest)) =
      placed text (Path.unexpected context c rest) := by
  rw [Cursor.unexpected, bind_of_ok (current_cons h)]
  rfl

/-- Another byte follows unless one is all that is left. -/
theorem hasMore_placeOf (h : rest <:+ text) :
    hasMore text (placeOf text rest) =
      some (.ok (decide (1 < Text.byteLength rest), placeOf text rest)) := by
  obtain ⟨before, rfl⟩ := h
  rw [hasMore, length_utf8, placeOf_append, Text.byteLength_append]
  simp only [Nat.add_lt_add_iff_left]

theorem cut_token {token : List Char} (h : token ++ rest <:+ text) (place : Nat) :
    cut text (placeOf text (token ++ rest)) (placeOf text rest) place =
      some (.ok (token, place)) := by
  rw [cut, slice_placeOf h]
  rfl

theorem length_lt_rounds (h : rest <:+ text) : rest.length < rounds text := by
  have hlength := h.length_le
  have hbytes := length_le_byteLength text
  rw [rounds, length_utf8]
  omega

theorem byteLength_lt_rounds (h : rest <:+ text) : Text.byteLength rest < rounds text := by
  rw [rounds, length_utf8]
  exact Nat.lt_succ_of_le (byteLength_le_of_suffix h)

/-- A run of ASCII characters is skipped byte by byte. -/
theorem skipWhile_placeOf {kind : Char → Bool} (hkind : AsciiKind kind) (h : rest <:+ text)
    {rounds : Nat} (hrounds : rest.length < rounds) :
    skipWhile text kind rounds (placeOf text rest) =
      some (.ok ((), placeOf text (rest.dropWhile kind))) := by
  induction rest generalizing rounds with
  | nil =>
      obtain ⟨rounds, rfl⟩ := Nat.exists_eq_add_of_lt hrounds
      rw [List.length_nil, Nat.zero_add, skipWhile, bind_of_ok peek_nil]
      rfl
  | cons c rest ih =>
      obtain ⟨rounds, rfl⟩ : ∃ n, rounds = n + 1 := ⟨rounds - 1, by omega⟩
      rw [List.length_cons, Nat.add_lt_add_iff_right] at hrounds
      rw [skipWhile, bind_of_ok (peek_cons h)]
      simp only [hkind.lead]
      cases hc : kind c with
      | true =>
          rw [if_pos rfl, skip_bind, placeOf_ascii (hkind c hc) h, ih (suffix_of_cons h) hrounds,
            List.dropWhile_cons_of_pos hc]
      | false =>
          rw [if_neg Bool.false_ne_true, List.dropWhile_cons_of_neg (by simp [hc])]
          rfl

theorem skipBlanks_follows (h : rest <:+ text) :
    Cursor.skipBlanks text (placeOf text rest) =
      some (.ok ((), placeOf text (Text.skipBlanks rest))) :=
  skipWhile_placeOf asciiKind_isBlank h (length_lt_rounds h)

/-! ## Quoted names -/

/-- A character that is neither a quote nor a backslash before another one stands for
itself. -/
theorem quoted_step {c : Char} (h : c :: rest <:+ text) (hquote : c ≠ '\'')
    (hescape : c = '\\' → rest = []) (rounds : Nat) :
    Cursor.quoted text (rounds + 1) (placeOf text (c :: rest)) =
      (Cursor.quoted text rounds >>= fun chars => pure (c :: chars)) (placeOf text rest) := by
  have hmore : ¬ (c = '\\' ∧ decide (1 < Text.byteLength (c :: rest)) = true) := by
    rintro ⟨rfl, hmore⟩
    rw [hescape rfl] at hmore
    exact absurd hmore (by decide)
  rw [Cursor.quoted, place_bind, charAt?_placeOf h]
  simp only [List.head?_cons]
  rw [bind_of_ok (hasMore_placeOf h), if_neg hmore, if_neg hquote, skip_bind, placeOf_cons h]

/-- A backslash takes the next character along. -/
theorem quoted_escape {c : Char} (h : '\\' :: c :: rest <:+ text) (rounds : Nat) :
    Cursor.quoted text (rounds + 1) (placeOf text ('\\' :: c :: rest)) =
      match unescape? c with
      | none => some (.error ⟨.unknownEscape c, placeOf text (c :: rest)⟩)
      | some value =>
        (Cursor.quoted text rounds >>= fun chars => pure (value :: chars)) (placeOf text rest) := by
  have hrest := suffix_of_cons h
  have hmore : 1 < Text.byteLength ('\\' :: c :: rest) := by
    have hsize := c.utf8Size_pos
    rw [Text.byteLength_cons, Text.byteLength_cons, utf8Size_of_ascii (by decide)]
    omega
  rw [Cursor.quoted, place_bind, charAt?_placeOf h]
  simp only [List.head?_cons]
  rw [bind_of_ok (hasMore_placeOf h), if_pos ⟨trivial, decide_eq_true hmore⟩, skip_bind,
    placeOf_ascii (by decide) h, bind_of_ok (current_cons hrest)]
  cases unescape? c with
  | none => rfl
  | some value =>
      simp only
      rw [skip_bind, placeOf_cons hrest]

theorem quoted_follows (h : rest <:+ text) {rounds : Nat} (hrounds : rest.length < rounds) :
    Cursor.quoted text rounds (placeOf text rest) = placed text (Path.quoted rest) := by
  induction rest using Path.quoted.induct generalizing rounds with
  | case1 =>
      obtain ⟨rounds, rfl⟩ : ∃ n, rounds = n + 1 := ⟨rounds - 1, by omega⟩
      rw [Cursor.quoted, place_bind, charAt?_placeOf h]
      rfl
  | case2 rest =>
      obtain ⟨rounds, rfl⟩ : ∃ n, rounds = n + 1 := ⟨rounds - 1, by omega⟩
      rw [Cursor.quoted, place_bind, charAt?_placeOf h]
      simp only [List.head?_cons]
      rw [bind_of_ok (hasMore_placeOf h), if_neg (by simp), if_pos trivial, skip_bind,
        placeOf_ascii (by decide) h, Path.quoted]
      rfl
  | case3 c rest value hvalue ih =>
      obtain ⟨rounds, rfl⟩ : ∃ n, rounds = n + 1 := ⟨rounds - 1, by omega⟩
      simp only [List.length_cons] at hrounds
      rw [quoted_escape h, Path.quoted, hvalue]
      exact map_placed (ih (suffix_of_cons (suffix_of_cons h)) (by omega))
  | case4 c rest hvalue =>
      obtain ⟨rounds, rfl⟩ : ∃ n, rounds = n + 1 := ⟨rounds - 1, by omega⟩
      rw [quoted_escape h, Path.quoted, hvalue]
      rfl
  | case5 c rest hquote hescape ih =>
      obtain ⟨rounds, rfl⟩ : ∃ n, rounds = n + 1 := ⟨rounds - 1, by omega⟩
      rw [List.length_cons, Nat.add_lt_add_iff_right] at hrounds
      rw [Path.quoted]
      · rw [quoted_step h]
        · exact map_placed (ih (suffix_of_cons h) hrounds)
        · exact hquote
        · rintro rfl
          cases rest with
          | nil => rfl
          | cons d rest => exact absurd rfl (hescape d rest rfl)
      · exact hquote
      · exact hescape

theorem quotedNames_follows (h : rest <:+ text) {n rounds : Nat} (hn : rest.length ≤ n)
    (hrounds : rest.length < rounds) :
    Cursor.quotedNames text rounds (placeOf text rest) =
      placed text (Path.quotedNames n rest) := by
  induction n generalizing rest rounds with
  | zero =>
      obtain ⟨rounds, rfl⟩ : ∃ n, rounds = n + 1 := ⟨rounds - 1, by omega⟩
      obtain rfl := List.eq_nil_of_length_eq_zero (Nat.le_zero.1 hn)
      rw [Cursor.quotedNames, bind_of_ok peek_nil]
      rfl
  | succ n ih =>
      obtain ⟨rounds, rfl⟩ : ∃ n, rounds = n + 1 := ⟨rounds - 1, by omega⟩
      cases rest with
      | nil =>
          rw [Cursor.quotedNames, bind_of_ok peek_nil]
          rfl
      | cons c rest =>
          have hrest := suffix_of_cons h
          rw [List.length_cons] at hn hrounds
          rw [Cursor.quotedNames, bind_of_ok (peek_cons h), Path.quotedNames]
          simp (disch := decide) only [lead_eq_iff]
          split_ifs with hquote
          · subst hquote
            rw [skip_bind, placeOf_ascii (by decide) h]
            refine bind_placed (quoted_follows hrest (length_lt_rounds hrest))
              (quoted_anchored rest) ?_
            intro name left hleft
            have hskip := skipBlanks_suffix hleft
            rw [bind_of_ok (skipBlanks_follows (hleft.trans hrest))]
            simp only
            split
            next heq =>
              rw [heq, bind_of_ok peek_nil]
              rfl
            next after heq =>
              rw [heq] at hskip
              rw [heq, bind_of_ok (peek_ascii (by decide) (hskip.trans hrest))]
              rfl
            next after heq =>
              rw [heq] at hskip
              have hcomma := hskip.trans hrest
              have hafter := suffix_of_cons hcomma
              have hlength := (skipBlanks_suffix (suffix_of_cons hskip)).length_le
              rw [heq, bind_of_ok (peek_ascii (by decide) hcomma)]
              simp only [Char.reduceEq, if_false, if_true]
              rw [skip_bind, placeOf_ascii (by decide) hcomma,
                bind_of_ok (skipBlanks_follows hafter)]
              exact map_placed (ih (skipBlanks_suffix hafter) (by omega) (by omega))
            next mark after hbracket hcomma heq =>
              rw [heq] at hskip
              rw [heq, bind_of_ok (peek_cons (hskip.trans hrest))]
              simp (disch := decide) only [lead_eq_iff]
              rw [if_neg hbracket, if_neg hcomma]
              exact unexpected_cons _ (hskip.trans hrest)
          · exact unexpected_cons _ h

/-! ## Array indexers -/

theorem readIndex_follows (token front rest : List Char) :
    Cursor.readIndex token (placeOf text front) (placeOf text rest) =
      placed text ((Path.readIndex token front).map fun index => (index, rest)) := by
  rw [Cursor.readIndex, Path.readIndex]
  cases index? token with
  | none => rfl
  | some index => rfl

theorem readBound_follows (token front rest : List Char) :
    Cursor.readBound token (placeOf text front) (placeOf text rest) =
      placed text ((Path.readBound token front).map fun bound => (bound, rest)) := by
  rw [Cursor.readBound, Path.readBound]
  split_ifs with htoken
  · rfl
  · have hindex := map_placed (f := some) (@readIndex_follows text token front rest)
    rw [hindex]
    cases Path.readIndex token front with
    | error failure => rfl
    | ok index => rfl

theorem close_follows (form : IndexerForm) (token front rest : List Char) :
    Cursor.close form token (placeOf text front) (placeOf text rest) =
      placed text ((form.close token front rest).map fun step => (step, rest)) := by
  have hindex (f : Int64 → Step) :
      (Cursor.readIndex token (placeOf text front) >>= fun index => pure (f index))
        (placeOf text rest) =
      placed text (((Path.readIndex token front).map f).map fun step => (step, rest)) := by
    rw [map_placed (readIndex_follows token front rest)]
    cases Path.readIndex token front with
    | error failure => rfl
    | ok index => rfl
  have hbound (f : Option Int64 → Step) :
      (Cursor.readBound token (placeOf text front) >>= fun bound => pure (f bound))
        (placeOf text rest) =
      placed text (((Path.readBound token front).map f).map fun step => (step, rest)) := by
    rw [map_placed (readBound_follows token front rest)]
    cases Path.readBound token front with
    | error failure => rfl
    | ok bound => rfl
  cases form with
  | single =>
      rw [Cursor.close, IndexerForm.close]
      split_ifs
      · rfl
      · exact hindex _
  | list indices =>
      rw [Cursor.close, IndexerForm.close]
      split_ifs
      · rfl
      · exact hindex _
  | sliceStop start => exact hbound _
  | sliceStride start stop => exact hbound _

/-- The characters of an index are no marks. -/
theorem not_mark_of_isIndexChar {c : Char} (hc : isIndexChar c = true) :
    Text.isBlank c = false ∧ c ≠ ']' ∧ c ≠ ',' ∧ c ≠ '*' ∧ c ≠ ':' := by
  have hne : ∀ d, isIndexChar d = false → c ≠ d := by
    rintro d hd rfl
    rw [hc] at hd
    cases hd
  refine ⟨?_, hne _ (by decide), hne _ (by decide), hne _ (by decide), hne _ (by decide)⟩
  simp only [Text.isBlank, Bool.or_eq_false_iff, beq_eq_false_iff_ne]
  exact ⟨⟨⟨⟨hne _ (by decide), hne _ (by decide)⟩, hne _ (by decide)⟩, hne _ (by decide)⟩,
    hne _ (by decide)⟩

/-- The cursor moves through the characters of an index. -/
theorem arrayIndexer_token {token : List Char} (htoken : ∀ c ∈ token, isIndexChar c = true)
    (h : token ++ rest <:+ text) (form : IndexerForm) (start rounds : Nat) :
    Cursor.arrayIndexer text (token.length + rounds) form start none
        (placeOf text (token ++ rest)) =
      Cursor.arrayIndexer text rounds form start none (placeOf text rest) := by
  induction token with
  | nil => rw [List.length_nil, Nat.zero_add, List.nil_append]
  | cons c token ih =>
      obtain ⟨hc, htoken⟩ := List.forall_mem_cons.1 htoken
      obtain ⟨hblank, hclose, hcomma, hstar, hcolon⟩ := not_mark_of_isIndexChar hc
      have hascii := asciiKind_isIndexChar c hc
      rw [List.cons_append] at h ⊢
      rw [List.length_cons, Nat.add_right_comm, Cursor.arrayIndexer, place_bind,
        bind_of_ok (peek_ascii hascii h)]
      simp only [hblank, Bool.false_eq_true, if_false]
      rw [if_neg hclose, if_neg hcomma, if_neg hstar, if_neg hcolon, if_pos ⟨hc, trivial⟩,
        skip_bind, placeOf_ascii hascii h, ih htoken (suffix_of_cons h)]

/-- Behind an index the cursor remembers where the blanks begin. -/
theorem arrayIndexer_blank {c : Char} (hc : Text.isBlank c = true) (h : c :: rest <:+ text)
    (form : IndexerForm) (start rounds : Nat) :
    Cursor.arrayIndexer text (rounds + 1) form start none (placeOf text (c :: rest)) =
      Cursor.arrayIndexer text rounds form start (some (placeOf text (c :: rest)))
        (placeOf text (Text.skipBlanks (c :: rest))) := by
  rw [Cursor.arrayIndexer, place_bind, bind_of_ok (peek_ascii (asciiKind_isBlank c hc) h)]
  simp only [hc, if_true]
  rw [bind_of_ok (skipBlanks_follows h)]

/-- The cursor stands at a mark behind an index that begins with `front`: the token is
`token`, and its end is remembered if blanks stand between it and the mark. -/
structure AtMark (text token front : List Char) (stop? : Option Nat) (c : Char)
    (rest : List Char) : Prop where
  front_suffix : front <:+ text
  rest_suffix : c :: rest <:+ text
  not_blank : Text.isBlank c = false
  cut_eq : ∀ place, cut text (placeOf text front) (stop?.getD (placeOf text (c :: rest))) place =
    some (.ok (token, place))
  not_index : stop? = none → isIndexChar c = false
  start_eq : placeOf text front = placeOf text (c :: rest) ↔ token = []

section AtMark

variable {token front : List Char} {stop? : Option Nat} {c : Char}

theorem AtMark.closes (h : AtMark text token front stop? ']' rest) (form : IndexerForm)
    (rounds : Nat) :
    Cursor.arrayIndexer text (rounds + 1) form (placeOf text front) stop?
        (placeOf text (']' :: rest)) =
      placed text ((form.close token front (']' :: rest)).map fun step => (step, ']' :: rest)) := by
  rw [Cursor.arrayIndexer, place_bind, bind_of_ok (peek_ascii (by decide) h.rest_suffix)]
  simp only [h.not_blank, Bool.false_eq_true, if_false, if_true]
  rw [bind_of_ok (h.cut_eq _), close_follows]

/-- Behind a comma or a colon the cursor goes on as the reader does, if it follows the
reader there. -/
theorem AtMark.goes_on {value : Type} {scan : Scan value} {outcome : Except Failure value}
    (h : AtMark text token front stop? c rest) (hascii : c.toNat < 128)
    (hscan : scan (placeOf text (c :: rest)) =
      placed text (outcome.map fun value => (value, c :: rest)))
    {form : value → IndexerForm} {n rounds : Nat}
    (hnext : ∀ form, Cursor.arrayIndexer text rounds form (placeOf text (Text.skipBlanks rest)) none
        (placeOf text (Text.skipBlanks rest)) =
      placed text (Path.arrayIndexer n form (Text.skipBlanks rest))) :
    (scan >>= fun value => skip 1 >>= fun _ => Cursor.skipBlanks text >>= fun _ =>
        place >>= fun start => Cursor.arrayIndexer text rounds (form value) start none)
        (placeOf text (c :: rest)) =
      placed text (outcome >>= fun value =>
        Path.arrayIndexer n (form value) (Text.skipBlanks rest)) := by
  cases outcome with
  | error failure => exact bind_of_error hscan
  | ok value =>
      rw [bind_of_ok hscan, skip_bind, placeOf_ascii hascii h.rest_suffix,
        bind_of_ok (skipBlanks_follows (suffix_of_cons h.rest_suffix)), place_bind, hnext]
      rfl

theorem AtMark.comma (h : AtMark text token front stop? ',' rest) (form : IndexerForm)
    {n rounds : Nat}
    (hnext : ∀ form, Cursor.arrayIndexer text rounds form (placeOf text (Text.skipBlanks rest)) none
        (placeOf text (Text.skipBlanks rest)) =
      placed text (Path.arrayIndexer n form (Text.skipBlanks rest))) :
    Cursor.arrayIndexer text (rounds + 1) form (placeOf text front) stop?
        (placeOf text (',' :: rest)) =
      placed text (match form.indices?, token.isEmpty with
        | some indices, false => do
          let index ← Path.readIndex token front
          Path.arrayIndexer n (.list (indices ++ [index])) (Text.skipBlanks rest)
        | _, _ => Path.unexpected .indexer ',' rest) := by
  rw [Cursor.arrayIndexer, place_bind, bind_of_ok (peek_ascii (by decide) h.rest_suffix)]
  simp only [h.not_blank, Bool.false_eq_true, Char.reduceEq, if_false, if_true]
  rw [bind_of_ok (h.cut_eq _)]
  cases form.indices? with
  | none => exact unexpected_cons _ h.rest_suffix
  | some indices =>
      cases token.isEmpty with
      | true => exact unexpected_cons _ h.rest_suffix
      | false => exact h.goes_on (by decide) (readIndex_follows token front _) hnext

theorem AtMark.colon (h : AtMark text token front stop? ':' rest) (form : IndexerForm)
    {n rounds : Nat}
    (hnext : ∀ form, Cursor.arrayIndexer text rounds form (placeOf text (Text.skipBlanks rest)) none
        (placeOf text (Text.skipBlanks rest)) =
      placed text (Path.arrayIndexer n form (Text.skipBlanks rest))) :
    Cursor.arrayIndexer text (rounds + 1) form (placeOf text front) stop?
        (placeOf text (':' :: rest)) =
      placed text (match form.colon? with
        | some next => do
          let bound ← Path.readBound token front
          Path.arrayIndexer n (next bound) (Text.skipBlanks rest)
        | none => Path.unexpected .indexer ':' rest) := by
  rw [Cursor.arrayIndexer, place_bind, bind_of_ok (peek_ascii (by decide) h.rest_suffix)]
  simp only [h.not_blank, Bool.false_eq_true, Char.reduceEq, if_false, if_true]
  cases form.colon? with
  | none => exact unexpected_cons _ h.rest_suffix
  | some next =>
      simp only
      rw [bind_of_ok (h.cut_eq _)]
      exact h.goes_on (by decide) (readBound_follows token front _) hnext

theorem AtMark.star (h : AtMark text token front stop? '*' rest) (form : IndexerForm)
    (rounds : Nat) :
    Cursor.arrayIndexer text (rounds + 1) form (placeOf text front) stop?
        (placeOf text ('*' :: rest)) =
      placed text (if form.isSingle && token.isEmpty then
        match Text.skipBlanks rest with
        | [] => failAt .openIndexer []
        | ']' :: rest => .ok (.element none, ']' :: rest)
        | c :: rest => Path.unexpected .indexer c rest
      else Path.unexpected .indexer '*' rest) := by
  have hrest := suffix_of_cons h.rest_suffix
  rw [Cursor.arrayIndexer, place_bind, bind_of_ok (peek_ascii (by decide) h.rest_suffix)]
  simp only [h.not_blank, Bool.false_eq_true, Char.reduceEq, if_false, if_true, ne_eq, h.start_eq]
  by_cases hshape : form.isSingle = true ∧ token = []
  · obtain ⟨hsingle, htoken⟩ := hshape
    rw [if_neg (by simp [hsingle, htoken]), if_pos (by simp [hsingle, htoken]), skip_bind,
      placeOf_ascii (by decide) h.rest_suffix, bind_of_ok (skipBlanks_follows hrest)]
    split
    next heq =>
      rw [heq, bind_of_ok peek_nil]
      rfl
    next after heq =>
      rw [heq, bind_of_ok (peek_ascii (by decide) (suffix_of_skipBlanks hrest heq))]
      rfl
    next d after hclose heq =>
      have hafter := suffix_of_skipBlanks hrest heq
      rw [heq, bind_of_ok (peek_cons hafter)]
      simp (disch := decide) only [lead_eq_iff]
      rw [if_neg hclose]
      exact unexpected_cons _ hafter
  · have hrefused : ¬ token = [] ∨ form.isSingle = false :=
      (not_and_or.1 hshape).symm.imp_right Bool.eq_false_iff.2
    rw [if_pos hrefused, if_neg (by simpa using hshape)]
    exact unexpected_cons _ h.rest_suffix

/-- No other character may stand at a mark. -/
theorem AtMark.other (h : AtMark text token front stop? c rest)
    (hclose : c ≠ ']') (hcomma : c ≠ ',') (hcolon : c ≠ ':') (hstar : c ≠ '*')
    (form : IndexerForm) (rounds : Nat) :
    Cursor.arrayIndexer text (rounds + 1) form (placeOf text front) stop?
        (placeOf text (c :: rest)) =
      placed text (Path.unexpected .indexer c rest) := by
  have hindex : ¬ (isIndexChar c = true ∧ stop? = none) := by
    rintro ⟨hindex, hstop⟩
    rw [h.not_index hstop] at hindex
    cases hindex
  rw [Cursor.arrayIndexer, place_bind, bind_of_ok (peek_cons h.rest_suffix)]
  simp only [asciiKind_isBlank.lead, asciiKind_isIndexChar.lead, h.not_blank, Bool.false_eq_true,
    if_false]
  simp (disch := decide) only [lead_eq_iff]
  rw [if_neg hclose, if_neg hcomma, if_neg hstar, if_neg hcolon, if_neg hindex]
  exact unexpected_cons _ h.rest_suffix

end AtMark

/-- The cursor comes to the mark behind an index, or to the end of the text. -/
theorem arrayIndexer_approach {front : List Char} (h : front <:+ text)
    (hblank : Text.skipBlanks front = front) {rounds : Nat} (hrounds : front.length < rounds)
    (form : IndexerForm) :
    ∃ stop? rounds', (Text.skipBlanks (front.dropWhile isIndexChar)).length < rounds' ∧
      Cursor.arrayIndexer text rounds form (placeOf text front) none (placeOf text front) =
        Cursor.arrayIndexer text rounds' form (placeOf text front) stop?
          (placeOf text (Text.skipBlanks (front.dropWhile isIndexChar))) ∧
      ∀ c rest, Text.skipBlanks (front.dropWhile isIndexChar) = c :: rest →
        AtMark text (front.takeWhile isIndexChar) front stop? c rest := by
  obtain ⟨token, htoken⟩ : ∃ token, front.takeWhile isIndexChar = token := ⟨_, rfl⟩
  obtain ⟨behind, hbehind⟩ : ∃ behind, front.dropWhile isIndexChar = behind := ⟨_, rfl⟩
  have hfront : front = token ++ behind := by
    rw [← htoken, ← hbehind, List.takeWhile_append_dropWhile]
  have hchars : ∀ c ∈ token, isIndexChar c = true := by
    rw [← htoken]
    exact fun c hc => List.mem_takeWhile_imp hc
  have hstop : ∀ c rest, behind = c :: rest → isIndexChar c = false :=
    fun c rest hshape => eq_false_of_dropWhile (hbehind.trans hshape)
  rw [htoken, hbehind]
  subst hfront
  have hrest : behind <:+ text := (List.suffix_append token behind).trans h
  have hleft : Text.skipBlanks behind <:+ behind := skipBlanks_suffix List.suffix_rfl
  rw [List.length_append] at hrounds
  obtain ⟨rounds, rfl⟩ : ∃ n, rounds = token.length + n := ⟨rounds - token.length, by omega⟩
  rw [Nat.add_lt_add_iff_left] at hrounds
  rw [arrayIndexer_token hchars h]
  have hstart : placeOf text (token ++ behind) = placeOf text (Text.skipBlanks behind) ↔
      token = [] := by
    constructor
    · intro hplace
      exact eq_nil_of_placeOf_eq h (hplace ▸ placeOf_mono text hleft)
    · rintro rfl
      rw [List.nil_append] at hblank ⊢
      rw [hblank]
  cases behind with
  | nil => exact ⟨none, rounds, hrounds, rfl, by intro c rest hshape; cases hshape⟩
  | cons d after =>
      obtain ⟨rounds, rfl⟩ : ∃ n, rounds = n + 1 := ⟨rounds - 1, by omega⟩
      rw [List.length_cons, Nat.add_lt_add_iff_right] at hrounds
      cases hd : Text.isBlank d with
      | true =>
          have hskip : Text.skipBlanks (d :: after) = Text.skipBlanks after :=
            List.dropWhile_cons_of_pos hd
          have hlength := Text.length_skipBlanks_le after
          refine ⟨some (placeOf text (d :: after)), rounds, by rw [hskip]; omega,
            arrayIndexer_blank hd hrest form _ _, ?_⟩
          intro c rest hshape
          rw [hshape] at hstart hleft
          exact ⟨h, hleft.trans hrest, eq_false_of_dropWhile hshape, cut_token h, by simp, hstart⟩
      | false =>
          rw [Text.skipBlanks_cons hd] at hstart ⊢
          refine ⟨none, rounds + 1, Nat.succ_lt_succ hrounds, rfl, ?_⟩
          rintro c rest hshape
          cases hshape
          exact ⟨h, hrest, hd, cut_token h, fun _ => hstop d after rfl, hstart⟩

theorem arrayIndexer_follows (h : rest <:+ text) (hblank : Text.skipBlanks rest = rest)
    {n rounds : Nat} (hn : rest.length ≤ n) (hrounds : rest.length < rounds)
    (form : IndexerForm) :
    Cursor.arrayIndexer text rounds form (placeOf text rest) none (placeOf text rest) =
      placed text (Path.arrayIndexer n form rest) := by
  induction n generalizing rest rounds form with
  | zero =>
      obtain ⟨rounds, rfl⟩ : ∃ n, rounds = n + 1 := ⟨rounds - 1, by omega⟩
      obtain rfl := List.eq_nil_of_length_eq_zero (Nat.le_zero.1 hn)
      rw [Cursor.arrayIndexer, place_bind, bind_of_ok peek_nil]
      rfl
  | succ n ih =>
      obtain ⟨stop?, rounds', hrounds', happroach, hmark⟩ :=
        arrayIndexer_approach h hblank hrounds form
      have hlength : (Text.skipBlanks (rest.dropWhile isIndexChar)).length ≤ rest.length :=
        (skipBlanks_suffix (List.dropWhile_suffix isIndexChar)).length_le
      obtain ⟨rounds', rfl⟩ : ∃ n, rounds' = n + 1 := ⟨rounds' - 1, by omega⟩
      have hnext : ∀ c after, Text.skipBlanks (rest.dropWhile isIndexChar) = c :: after →
          ∀ form, Cursor.arrayIndexer text rounds' form (placeOf text (Text.skipBlanks after)) none
              (placeOf text (Text.skipBlanks after)) =
            placed text (Path.arrayIndexer n form (Text.skipBlanks after)) := by
        intro c after hshape form
        have hafter := suffix_of_cons (hmark c after hshape).rest_suffix
        have hskip := Text.length_skipBlanks_le after
        rw [hshape, List.length_cons] at hlength hrounds'
        exact ih (skipBlanks_suffix hafter) (Text.skipBlanks_skipBlanks after) (by omega)
          (by omega) form
      rw [happroach, Path.arrayIndexer]
      split
      next heq =>
        rw [heq, Cursor.arrayIndexer, place_bind, bind_of_ok peek_nil]
        rfl
      next after heq => exact heq ▸ (hmark _ _ heq).closes form rounds'
      next after heq => exact heq ▸ (hmark _ _ heq).comma form (hnext _ _ heq)
      next after heq => exact heq ▸ (hmark _ _ heq).colon form (hnext _ _ heq)
      next after heq => exact heq ▸ (hmark _ _ heq).star form rounds'
      next c after hclose hcomma hcolon hstar heq =>
        exact heq ▸ (hmark _ _ heq).other hclose hcomma hcolon hstar form rounds'

end Cursor

end PathQuery.Path
