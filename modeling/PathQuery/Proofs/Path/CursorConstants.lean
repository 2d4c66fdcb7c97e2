import PathQuery.Proofs.Path.CursorLiteral
import PathQuery.Proofs.Path.CursorTokens

/-!
# What a cursor reads in constants

The constants of a predicate are read byte by byte.  In a regular expression a backslash
takes the next byte along, which may be the first of several that belong to one
character; the others are neither slashes nor backslashes, so the cursor moves over them
and comes to the end of the character all the same.
-/

namespace PathQuery.Path.Cursor

open Scan

variable {text rest : List Char}

/-! ## Numbers -/

theorem readNumber_follows (h : rest <:+ text) :
    Cursor.readNumber text (placeOf text rest) = placed text (Path.readNumber rest) := by
  have htoken : rest.takeWhile isNumberChar ++ rest.dropWhile isNumberChar <:+ text := by
    rwa [List.takeWhile_append_dropWhile]
  have hcut := cut_token htoken (placeOf text (rest.dropWhile isNumberChar))
  rw [List.takeWhile_append_dropWhile] at hcut
  rw [Cursor.readNumber, place_bind,
    bind_of_ok (skipWhile_placeOf asciiKind_isNumberChar h (length_lt_rounds h)), place_bind,
    bind_of_ok hcut, Path.readNumber]
  cases Number.ofText? (rest.takeWhile isNumberChar) with
  | none => rfl
  | some number => rfl

/-! ## Regular expressions -/

/-- Inside of a character nothing ends a regular expression. -/
theorem skipRegex_inside {c : Char} (h : c :: rest <:+ text) (rounds : Nat) {inside further : Nat}
    (hinside : 0 < inside) (hsize : inside + further = c.utf8Size) :
    skipRegex text (further + rounds) (placeOf text (c :: rest) + inside) =
      skipRegex text rounds (placeOf text rest) := by
  induction further generalizing inside with
  | zero =>
      rw [Nat.add_zero] at hsize
      rw [Nat.zero_add, hsize, placeOf_cons h]
  | succ further ih =>
      have hwide : 128 ≤ c.toNat := by
        by_contra hascii
        rw [utf8Size_of_ascii (Nat.not_le.1 hascii)] at hsize
        omega
      obtain ⟨b, hb, hle⟩ := @byteAt_wide c hwide rest inside (by omega)
      have hne : ∀ d : Char, d.toNat < 128 → b ≠ d := by
        rintro d hd rfl
        omega
      rw [← byteAt_placeOf h] at hb
      have hpeek : peek text (placeOf text (c :: rest) + inside) =
          some (.ok (some b, placeOf text (c :: rest) + inside)) := by
        rw [peek, hb]
      rw [Nat.add_right_comm, skipRegex, bind_of_ok hpeek]
      simp only
      rw [bind_of_ok rfl, if_neg (fun hescape => hne '\\' (by decide) hescape.1),
        if_neg (hne '/' (by decide)), skip_bind, Nat.add_assoc]
      exact ih (by omega) (by omega)

/-- The cursor moves over a character that is neither a slash nor a backslash before
another one. -/
theorem skipRegex_step {c : Char} (h : c :: rest <:+ text) (hslash : c ≠ '/')
    (hescape : c = '\\' → rest = []) (rounds : Nat) :
    skipRegex text (c.utf8Size + rounds) (placeOf text (c :: rest)) =
      skipRegex text rounds (placeOf text rest) := by
  have hmore : ¬ (c = '\\' ∧ decide (1 < Text.byteLength (c :: rest)) = true) := by
    rintro ⟨rfl, hmore⟩
    rw [hescape rfl] at hmore
    exact absurd hmore (by decide)
  obtain ⟨further, hfurther⟩ : ∃ n, c.utf8Size = 1 + n :=
    ⟨c.utf8Size - 1, by have := c.utf8Size_pos; omega⟩
  rw [hfurther, Nat.add_comm 1, Nat.add_right_comm, skipRegex, bind_of_ok (peek_cons h)]
  simp (disch := decide) only [lead_eq_iff]
  rw [bind_of_ok (hasMore_placeOf h), if_neg hmore, if_neg hslash, skip_bind]
  exact skipRegex_inside h rounds Nat.one_pos hfurther.symm

/-- A backslash takes along the character behind it, and not only its first byte. -/
theorem skipRegex_escape {c : Char} (h : '\\' :: c :: rest <:+ text) (rounds : Nat) :
    skipRegex text (c.utf8Size + rounds) (placeOf text ('\\' :: c :: rest)) =
      skipRegex text rounds (placeOf text rest) := by
  have hrest := suffix_of_cons h
  have hmore : 1 < Text.byteLength ('\\' :: c :: rest) := by
    have hsize := c.utf8Size_pos
    rw [Text.byteLength_cons, Text.byteLength_cons, utf8Size_of_ascii (by decide)]
    omega
  obtain ⟨further, hfurther⟩ : ∃ n, c.utf8Size = 1 + n :=
    ⟨c.utf8Size - 1, by have := c.utf8Size_pos; omega⟩
  rw [hfurther, Nat.add_comm 1, Nat.add_right_comm, skipRegex,
    bind_of_ok (peek_ascii (by decide) h)]
  simp only
  rw [bind_of_ok (hasMore_placeOf h), if_pos ⟨trivial, decide_eq_true hmore⟩, skip_bind,
    ← Nat.add_assoc _ 1 1, placeOf_ascii (by decide) h]
  exact skipRegex_inside hrest rounds Nat.one_pos hfurther.symm

/-- The cursor comes behind the slash that closes the pattern, or to the end of the
text. -/
theorem skipRegex_follows (h : rest <:+ text) {rounds : Nat}
    (hrounds : Text.byteLength rest < rounds) :
    skipRegex text rounds (placeOf text rest) =
      match regexBody rest with
      | none => some (.error ⟨.openRegex, placeOf text []⟩)
      | some (_, after) => some (.ok ((), placeOf text after)) := by
  induction rest using regexBody.induct generalizing rounds with
  | case1 =>
      obtain ⟨rounds, rfl⟩ : ∃ n, rounds = n + 1 := ⟨rounds - 1, by omega⟩
      rw [skipRegex, bind_of_ok peek_nil]
      rfl
  | case2 after =>
      obtain ⟨rounds, rfl⟩ : ∃ n, rounds = n + 1 := ⟨rounds - 1, by omega⟩
      rw [skipRegex, bind_of_ok (peek_ascii (by decide) h)]
      simp only
      rw [bind_of_ok (hasMore_placeOf h), if_neg (by simp), if_pos trivial, skip,
        placeOf_ascii (by decide) h, regexBody]
  | case3 c rest ih =>
      rw [Text.byteLength_cons, Text.byteLength_cons] at hrounds
      obtain ⟨rounds, rfl⟩ : ∃ n, rounds = c.utf8Size + n := ⟨rounds - c.utf8Size, by omega⟩
      rw [skipRegex_escape h, ih (suffix_of_cons (suffix_of_cons h)) (by omega), regexBody]
      cases regexBody rest with
      | none => rfl
      | some read => rfl
  | case4 c rest hslash hescape ih =>
      rw [Text.byteLength_cons] at hrounds
      obtain ⟨rounds, rfl⟩ : ∃ n, rounds = c.utf8Size + n := ⟨rounds - c.utf8Size, by omega⟩
      rw [skipRegex_step h hslash, ih (suffix_of_cons h) (by omega), regexBody]
      · cases regexBody rest with
        | none => rfl
        | some read => rfl
      · exact hslash
      · exact hescape
      · rintro rfl
        cases rest with
        | nil => rfl
        | cons d rest => exact absurd rfl (hescape d rest rfl)

theorem readRegex_follows (h : '/' :: rest <:+ text) :
    Cursor.readRegex text (placeOf text ('/' :: rest)) = placed text (Path.readRegex rest) := by
  have hrest := suffix_of_cons h
  have hskip := skipRegex_follows hrest (byteLength_lt_rounds hrest)
  rw [Cursor.readRegex, place_bind, skip_bind, placeOf_ascii (by decide) h, Path.readRegex]
  cases hbody : regexBody rest with
  | none =>
      rw [hbody] at hskip
      exact bind_of_error hskip
  | some read =>
      obtain ⟨body, after⟩ := read
      rw [hbody] at hskip
      have hparts := regexBody_eq_some hbody
      have htoken : '/' :: rest =
          ('/' :: body ++ '/' :: after.takeWhile Char.isAlpha) ++ after.dropWhile Char.isAlpha := by
        rw [hparts, List.append_assoc, List.cons_append, List.cons_append,
          List.takeWhile_append_dropWhile]
      have hafter : after <:+ text :=
        (hparts ▸ List.suffix_append_of_suffix (List.suffix_cons _ _)).trans hrest
      have hcut := cut_token (htoken ▸ h) (placeOf text (after.dropWhile Char.isAlpha))
      rw [← htoken] at hcut
      rw [bind_of_ok hskip,
        bind_of_ok (skipWhile_placeOf asciiKind_isAlpha hafter (length_lt_rounds hafter)),
        place_bind, bind_of_ok hcut]
      simp only [splitLiteral_eq, Option.isNone_some, Bool.false_eq_true, if_false]
      cases RegexLiteral.ofText
        (String.ofList ('/' :: body ++ '/' :: after.takeWhile Char.isAlpha)) with
      | error reason => rfl
      | ok regex => rfl

/-! ## Words, operators and parentheses -/

theorem eat_follows {token : List Char} (htoken : ∀ c ∈ token, c.toNat < 128)
    (h : rest <:+ text) :
    eat text token (placeOf text rest) =
      if token.isPrefixOf rest then some (.ok (true, placeOf text (rest.drop token.length)))
      else some (.ok (false, placeOf text rest)) := by
  have hplace : placeOf text rest ≤ (utf8 text).length := by
    rw [length_utf8]
    exact placeOf_le text rest
  rw [eat, if_pos hplace, drop_placeOf h, isPrefixOf_utf8 htoken]
  split_ifs with hfront
  · obtain ⟨after, rfl⟩ := List.isPrefixOf_iff_prefix.1 hfront
    rw [length_utf8, placeOf_token h, List.drop_left]
  · rfl

theorem readSign_follows {signs : List (List Char × Operator)}
    (hsigns : ∀ sign ∈ signs, ∀ c ∈ sign.1, c.toNat < 128) (h : rest <:+ text) :
    readSign text signs (placeOf text rest) =
      placed text (match signs.find? fun sign => sign.1.isPrefixOf rest with
        | some (sign, operator) => .ok (operator, rest.drop sign.length)
        | none => failAt .unknownOperator rest) := by
  induction signs with
  | nil => rfl
  | cons sign signs ih =>
      obtain ⟨hsign, hsigns⟩ := List.forall_mem_cons.1 hsigns
      have heat := eat_follows hsign h
      rw [readSign]
      cases hfront : sign.1.isPrefixOf rest with
      | true =>
          rw [hfront, if_pos rfl] at heat
          rw [bind_of_ok heat, List.find?_cons, hfront]
          rfl
      | false =>
          rw [hfront, if_neg Bool.false_ne_true] at heat
          rw [bind_of_ok heat, List.find?_cons, hfront]
          exact ih hsigns

theorem readOperator_follows (h : rest <:+ text) :
    Cursor.readOperator text (placeOf text rest) = placed text (Path.readOperator rest) := by
  rw [Cursor.readOperator, Path.readOperator.eq_def]
  split
  next =>
    rw [bind_of_ok peek_nil, if_neg (by simp), bind_of_ok (hasMore_placeOf h),
      if_neg (by simp)]
    rfl
  next after =>
    rw [bind_of_ok (peek_ascii (by decide) h), if_pos rfl]
    exact unexpected_cons _ h
  next c after hclose =>
    rw [bind_of_ok (peek_cons h)]
    simp (disch := decide) only [Option.some.injEq, lead_eq_iff]
    rw [if_neg hclose, bind_of_ok (hasMore_placeOf h)]
    have hmore :
        1 < Text.byteLength (c :: after) ↔ ¬ (after.isEmpty && c.utf8Size == 1) = true := by
      have hsize := c.utf8Size_pos
      cases after with
      | nil =>
          simp only [Text.byteLength_cons, Text.byteLength_nil, List.isEmpty_nil, Bool.true_and,
            beq_iff_eq]
          omega
      | cons d after =>
          have hsize' := d.utf8Size_pos
          simp only [Text.byteLength_cons, List.isEmpty_cons, Bool.false_and, Bool.false_eq_true,
            not_false_iff, iff_true]
          omega
    by_cases hlast : (after.isEmpty && c.utf8Size == 1) = true
    · rw [if_pos hlast, if_neg fun hdecide => hmore.1 (of_decide_eq_true hdecide) hlast]
      rfl
    · rw [if_neg hlast, if_pos (decide_eq_true (hmore.2 hlast))]
      exact readSign_follows (by simp [operatorSigns]) h

theorem readWord_follows {word : List Char} (hword : ∀ c ∈ word, c.toNat < 128) (value : Json)
    {c : Char} (h : c :: rest <:+ text) :
    Cursor.readWord text word value (placeOf text (c :: rest)) =
      placed text (Path.readWord word value (c :: rest)) := by
  have heat := eat_follows hword h
  rw [Cursor.readWord, Path.readWord]
  split_ifs at heat ⊢ with hfront
  · rw [bind_of_ok heat, if_pos rfl]
    rfl
  · rw [bind_of_ok heat, if_neg Bool.false_ne_true]
    exact unexpected_cons _ h

theorem closeParenthesis_follows (h : rest <:+ text) :
    Cursor.closeParenthesis text (placeOf text rest) =
      placed text ((Path.closeParenthesis rest).map fun rest => ((), rest)) := by
  rw [Cursor.closeParenthesis, Path.closeParenthesis.eq_def]
  split
  next =>
    rw [bind_of_ok peek_nil]
    rfl
  next after =>
    rw [bind_of_ok (peek_ascii (by decide) h)]
    simp only [if_true]
    rw [skip, placeOf_ascii (by decide) h]
    rfl
  next c after hclose =>
    rw [bind_of_ok (peek_cons h)]
    simp (disch := decide) only [lead_eq_iff]
    rw [if_neg hclose]
    exact unexpected_cons _ h

theorem skipInside_follows (h : rest <:+ text) :
    Cursor.skipInside text (placeOf text rest) =
      placed text ((Path.skipInside rest).map fun rest => ((), rest)) := by
  rw [Cursor.skipInside, bind_of_ok (skipBlanks_follows h), Path.skipInside]
  split
  next heq =>
    rw [heq, bind_of_ok peek_nil]
    rfl
  next hsome =>
    have hskip := skipBlanks_suffix h
    cases heq : Text.skipBlanks rest with
    | nil => exact absurd heq hsome
    | cons c after =>
        rw [heq] at hskip
        rw [bind_of_ok (peek_cons hskip)]
        rfl

end PathQuery.Path.Cursor
