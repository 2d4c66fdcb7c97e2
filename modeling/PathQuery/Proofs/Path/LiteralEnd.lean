import PathQuery.Proofs.Path.Accepted
import PathQuery.Proofs.Path.CursorConstants

/-!
# Where a regular expression ends

The cursor that reads a path goes forwards through the bytes of a regular expression and
stops at the first slash that no backslash takes along.  The literal that it has found is
then split by going backwards to the last slash with an even number of backslashes before
it.  Main statement: the two stop at the same slash, wherever the cursor stands on one, and
the cursor runs to the end of the text just where no slash could close the literal.
-/

namespace PathQuery

namespace RegexLiteral

/-- Behind the closing slash there are only letters, so a literal is split there. -/
theorem split?_text {body letters : List Char} (hclosing : isEscaped body.reverse = false)
    (hletters : ∀ c ∈ letters, c.isAlpha = true) :
    split? ('/' :: (body ++ '/' :: letters)) = some (body, letters) := by
  rw [split?, List.reverse_append, List.reverse_cons, List.append_assoc, List.singleton_append,
    splitBack_letters hletters, splitBack, if_pos ⟨rfl, hclosing⟩, List.reverse_reverse,
    List.append_nil]

/-- The pattern of a literal is the first part of its text. -/
theorem pattern_of_ofText {token body letters : List Char} {literal : RegexLiteral}
    (hsplit : split? token = some (body, letters))
    (h : ofText (String.ofList token) = .ok literal) : literal.pattern = String.ofList body := by
  have hcompiled := literal.compiled
  rw [text_of_ofText h, compile, String.toList_ofList, hsplit] at hcompiled
  simp only at hcompiled
  split at hcompiled
  · cases hcompiled
  · simp only [Except.ok.injEq, Prod.mk.injEq] at hcompiled
    exact hcompiled.1.symm

end RegexLiteral

namespace Path

open RegexLiteral

/-! ## Forwards through the characters -/

/-- A backslash that takes nothing along is the last character, and closes nothing. -/
theorem regexBody_backslash {c : Char} {after : List Char}
    (hpair : ∀ d rest, c = '\\' → after = d :: rest → False) (hc : c = '\\') : after = [] := by
  cases after with
  | nil => rfl
  | cons d rest => exact absurd rfl (hpair d rest hc)

/-- The slash that closes a pattern is not escaped. -/
theorem regexBody_not_isEscaped {text body rest : List Char}
    (h : regexBody text = some (body, rest)) : isEscaped body.reverse = false := by
  induction text using regexBody.induct generalizing body with
  | case1 => cases h
  | case2 after =>
      rw [regexBody] at h
      cases h
      rfl
  | case3 c after ih =>
      rw [regexBody] at h
      obtain ⟨⟨body', rest'⟩, hbody, hshape⟩ := Option.map_eq_some_iff.1 h
      cases hshape
      rw [List.reverse_cons, List.reverse_cons, List.append_assoc, List.singleton_append,
        isEscaped_append_pair]
      exact ih hbody
  | case4 c after hslash hpair ih =>
      rw [regexBody] at h
      · obtain ⟨⟨body', rest'⟩, hbody, hshape⟩ := Option.map_eq_some_iff.1 h
        cases hshape
        have hbackslash : c ≠ '\\' := by
          intro hc
          rw [regexBody_backslash hpair hc] at hbody
          cases hbody
        rw [List.reverse_cons, isEscaped_append_of_ne hbackslash]
        exact ih hbody
      · exact hslash
      · exact hpair

/-- No slash closes a pattern just where every slash is escaped. -/
theorem regexBody_eq_none_iff (text : List Char) :
    regexBody text = none ↔ SlashesEscaped text := by
  constructor
  · intro h
    induction text using regexBody.induct with
    | case1 => exact .nil
    | case2 after =>
        rw [regexBody] at h
        cases h
    | case3 c after ih =>
        rw [regexBody, Option.map_eq_none_iff] at h
        exact (ih h).pair c
    | case4 c after hslash hpair ih =>
        rw [regexBody, Option.map_eq_none_iff] at h
        · by_cases hc : c = '\\'
          · obtain rfl := regexBody_backslash hpair hc
            intro before after htext
            obtain _ | ⟨d, before⟩ := before
            · exact absurd (List.cons.inj htext).1 hslash
            · cases before <;> cases (List.cons.inj htext).2
          · exact (ih h).cons hslash hc
        · exact hslash
        · exact hpair
  · intro hescaped
    cases hbody : regexBody text with
    | none => rfl
    | some read =>
        have hopen := hescaped read.1 read.2 (regexBody_eq_some hbody)
        rw [regexBody_not_isEscaped hbody] at hopen
        cases hopen

/-! ## The literal in front of a text -/

/-- A literal in front of a text, behind its opening slash: a body up to the first slash that
is not escaped, and the longest run of letters behind that slash. -/
structure LiteralAhead (rest body letters after : List Char) : Prop where
  parts : rest = body ++ '/' :: (letters ++ after)
  escaped : SlashesEscaped body
  closing : isEscaped body.reverse = false
  letters : ∀ c ∈ letters, c.isAlpha = true
  longest : ∀ c ∈ after.head?, c.isAlpha = false

/-- Where the reader finds a closing slash, a literal stands in front of the text. -/
theorem exists_literalAhead {rest body left : List Char} (h : regexBody rest = some (body, left)) :
    ∃ letters after, left = letters ++ after ∧ LiteralAhead rest body letters after := by
  obtain ⟨letters, after, rfl, hletters, hlongest⟩ := exists_run Char.isAlpha left
  exact ⟨letters, after, rfl, regexBody_eq_some h, regexBody_slashesEscaped h,
    regexBody_not_isEscaped h, hletters, hlongest⟩

namespace LiteralAhead

variable {rest body letters after : List Char}

/-- The reader finds the closing slash of the literal. -/
theorem regexBody_eq (h : LiteralAhead rest body letters after) :
    regexBody rest = some (body, letters ++ after) := by
  rw [h.parts]
  exact regexBody_text h.escaped h.closing _

/-- The reader takes the literal in front of a text, and either compiles or blames it. -/
theorem readRegex_eq (h : LiteralAhead rest body letters after) :
    readRegex rest = match ofText (String.ofList ('/' :: (body ++ '/' :: letters))) with
      | .ok literal => .ok (literal, after)
      | .error reason =>
        failAt (.invalidRegex (String.ofList ('/' :: (body ++ '/' :: letters))) reason)
          ('/' :: rest) := by
  have hahead := takeWhile_run h.letters h.longest
  cases hcompiled : ofText (String.ofList ('/' :: (body ++ '/' :: letters))) with
  | ok literal =>
      simp only [readRegex, h.regexBody_eq, hahead, dropWhile_run h.letters h.longest,
        List.cons_append, hcompiled]
  | error reason =>
      simp only [readRegex, h.regexBody_eq, hahead, List.cons_append, hcompiled]

end LiteralAhead

namespace Cursor

/-- An ASCII byte is found only where its character is. -/
theorem exists_of_byteAt {text : List Char} {place : Nat} {d : Char} (hd : d.toNat < 128)
    (h : byteAt text place = some d) :
    ∃ before rest, text = before ++ d :: rest ∧ place = Text.byteLength before := by
  induction text generalizing place with
  | nil => cases h
  | cons c text ih =>
      rcases Nat.lt_or_ge place c.utf8Size with hinside | hbehind
      · have hascii : c.toNat < 128 := by
          by_contra hwide
          obtain ⟨b, hb, hle⟩ := byteAt_wide (Nat.not_lt.1 hwide) text hinside
          rw [h] at hb
          rw [← Option.some.inj hb] at hle
          omega
        rw [utf8Size_of_ascii hascii] at hinside
        obtain rfl : place = 0 := by omega
        rw [byteAt_ascii hascii] at h
        exact ⟨[], text, by rw [Option.some.inj h, List.nil_append], rfl⟩
      · obtain ⟨further, rfl⟩ := Nat.exists_eq_add_of_le hbehind
        have hbyte := byteAt_append [c] text further
        rw [Text.byteLength_cons, Text.byteLength_nil, Nat.add_zero, List.singleton_append,
          h] at hbyte
        obtain ⟨before, rest, rfl, rfl⟩ := ih hbyte.symm
        exact ⟨c :: before, rest, rfl, rfl⟩

/-- If a cursor on a slash consumes a token as a literal: it answers a literal and stands
behind the token, or it blames the token. -/
def Consumes (text : List Char) (place : Nat) (token : List Char) : Prop :=
  (∃ literal stop, readRegex text place = some (.ok (literal, stop)) ∧
      slice text place stop = some token) ∨
    ∃ reason, readRegex text place =
      some (.error ⟨.invalidRegex (String.ofList token) reason, place⟩)

section Ahead

variable {text rest body letters after : List Char}

/-- The literal in front of a text is all that a cursor consumes. -/
theorem eq_of_consumes (h : '/' :: rest <:+ text) (hahead : LiteralAhead rest body letters after)
    {token : List Char} (hconsumes : Consumes text (placeOf text ('/' :: rest)) token) :
    token = '/' :: (body ++ '/' :: letters) := by
  have hread := readRegex_follows h
  have hwhole : '/' :: rest = '/' :: (body ++ '/' :: letters) ++ after := by
    rw [hahead.parts, List.cons_append, List.append_assoc, List.cons_append]
  rw [hahead.readRegex_eq] at hread
  rcases hconsumes with ⟨literal, stop, hstop, hslice⟩ | ⟨reason, hreason⟩
  · rw [hstop] at hread
    split at hread
    · simp only [placed, Option.some.injEq, Except.ok.injEq, Prod.mk.injEq] at hread
      rw [hread.2, hwhole, slice_placeOf (hwhole ▸ h)] at hslice
      exact (Option.some.inj hslice).symm
    · cases hread
  · rw [hreason] at hread
    split at hread
    · cases hread
    · simp only [placed, failAt, Failure.locate, Option.some.injEq, Except.error.injEq,
        ParseError.mk.injEq, Fault.invalidRegex.injEq, String.ofList_inj] at hread
      exact hread.1.1

/-- The cursor that goes forwards stops behind the closing slash. -/
theorem skipRegex_ahead (h : '/' :: rest <:+ text) (hahead : LiteralAhead rest body letters after) :
    skipRegex text (rounds text) (placeOf text ('/' :: rest) + 1) =
      some (.ok ((), placeOf text ('/' :: rest) + (Text.byteLength body + 2))) := by
  have hrest := suffix_of_cons h
  have hskip := skipRegex_follows hrest (byteLength_lt_rounds hrest)
  have hwhole : '/' :: rest = '/' :: (body ++ ['/']) ++ (letters ++ after) := by
    rw [hahead.parts, List.cons_append, List.append_assoc, List.singleton_append]
  have htoken := placeOf_token (hwhole ▸ h)
  rw [← hwhole, Text.byteLength_cons, Text.byteLength_append, Text.byteLength_cons,
    Text.byteLength_nil, utf8Size_of_ascii (by decide)] at htoken
  rw [placeOf_ascii (by decide) h, hskip, hahead.regexBody_eq]
  simp only [Option.some.injEq, Except.ok.injEq, Prod.mk.injEq, true_and]
  omega

/-- Going backwards from the end of the literal leads to the closing slash. -/
theorem lastSlash_ahead (hahead : LiteralAhead rest body letters after) :
    lastSlash ('/' :: (body ++ '/' :: letters))
        ((utf8 ('/' :: (body ++ '/' :: letters))).length - 1) =
      some (Text.byteLength body + 1) := by
  have hlast := lastSlash_eq (body ++ '/' :: letters).reverse []
  have hsplit := split?_text hahead.closing hahead.letters
  rw [split?] at hsplit
  rw [List.reverse_reverse, List.append_nil, byteLength_reverse, hsplit] at hlast
  rw [length_utf8, Text.byteLength_cons, utf8Size_of_ascii (by decide), Nat.add_sub_cancel_left,
    hlast]
  rfl

/-- A cursor runs to the end of the text just where no slash could close the literal. -/
theorem openRegex_iff (h : '/' :: rest <:+ text) :
    (∃ position, Cursor.readRegex text (placeOf text ('/' :: rest)) =
      some (.error ⟨.openRegex, position⟩)) ↔ SlashesEscaped rest := by
  rw [readRegex_follows h, ← regexBody_eq_none_iff]
  constructor
  · rintro ⟨position, hopen⟩
    by_contra hclosed
    obtain ⟨⟨body, left⟩, hbody⟩ := Option.ne_none_iff_exists'.1 hclosed
    obtain ⟨letters, after, -, hahead⟩ := exists_literalAhead hbody
    rw [hahead.readRegex_eq] at hopen
    split at hopen
    · cases hopen
    · simp [placed, failAt, Failure.locate] at hopen
  · intro hnone
    refine ⟨placeOf text [], ?_⟩
    rw [Path.readRegex, hnone]
    rfl

end Ahead

/-- The cursor that reads a path and the splitter of what it consumes agree on where a
regular expression ends.  Wherever a cursor stands on a slash, it reads what the reader of
paths reads behind that slash, and it fails for want of a closing slash just where every
slash behind is escaped.  Whatever token it consumes otherwise is a body between two slashes
with the longest run of letters behind them; it has stopped behind the slash that the
splitter goes back to, so the pattern of the literal is the body. -/
theorem literal_ends_alike (text : List Char) (place : Nat)
    (hslash : byteAt text place = some '/') :
    ∃ before rest, text = before ++ '/' :: rest ∧ place = Text.byteLength before ∧
      Cursor.readRegex text place = placed text (Path.readRegex rest) ∧
      ((∃ position, Cursor.readRegex text place = some (.error ⟨.openRegex, position⟩)) ↔
        SlashesEscaped rest) ∧
      ∀ token, Consumes text place token →
        ∃ body letters after, LiteralAhead rest body letters after ∧
          token = '/' :: (body ++ '/' :: letters) ∧
          skipRegex text (rounds text) (place + 1) =
            some (.ok ((), place + (Text.byteLength body + 1) + 1)) ∧
          lastSlash token ((utf8 token).length - 1) = some (Text.byteLength body + 1) ∧
          splitLiteral token = some (some (body, letters)) ∧
          split? token = some (body, letters) ∧
          ∀ literal, ofText (String.ofList token) = .ok literal →
            literal.pattern = String.ofList body := by
  obtain ⟨before, rest, rfl, rfl⟩ := exists_of_byteAt (by decide) hslash
  have hsuffix : '/' :: rest <:+ before ++ '/' :: rest := List.suffix_append _ _
  rw [← placeOf_append before ('/' :: rest)]
  refine ⟨before, rest, rfl, placeOf_append before _, readRegex_follows hsuffix,
    openRegex_iff hsuffix, ?_⟩
  intro token hconsumes
  obtain ⟨⟨body, left⟩, hbody⟩ : ∃ read, regexBody rest = some read := by
    refine Option.ne_none_iff_exists'.1 fun hnone => ?_
    obtain ⟨position, hopen⟩ := (openRegex_iff hsuffix).2 ((regexBody_eq_none_iff rest).1 hnone)
    rcases hconsumes with ⟨literal, stop, hstop, -⟩ | ⟨reason, hreason⟩
    · rw [hopen] at hstop
      cases hstop
    · rw [hopen] at hreason
      simp at hreason
  obtain ⟨letters, after, -, hahead⟩ := exists_literalAhead hbody
  obtain rfl := eq_of_consumes hsuffix hahead hconsumes
  have hsplit := split?_text hahead.closing hahead.letters
  refine ⟨body, letters, after, hahead, rfl, skipRegex_ahead hsuffix hahead,
    lastSlash_ahead hahead, ?_, hsplit, fun literal => pattern_of_ofText hsplit⟩
  rw [splitLiteral_eq, hsplit]

/-- A backslash before a wide character takes only its first byte along, and one before a
slash takes the slash; the literal ends at the next slash in either direction. -/
theorem literal_ends_alike_wide :
    byteAt "@=~/\\é\\/a/i)".toList 3 = some '/' ∧
      Consumes "@=~/\\é\\/a/i)".toList 3 "/\\é\\/a/i".toList ∧
      ∃ body letters, "/\\é\\/a/i".toList = '/' :: (body ++ '/' :: letters) ∧
        skipRegex "@=~/\\é\\/a/i)".toList (rounds "@=~/\\é\\/a/i)".toList) 4 =
          some (.ok ((), 3 + (Text.byteLength body + 1) + 1)) ∧
        split? "/\\é\\/a/i".toList = some (body, letters) := by
  have hslash : byteAt "@=~/\\é\\/a/i)".toList 3 = some '/' := by rfl
  have hconsumes : Consumes "@=~/\\é\\/a/i)".toList 3 "/\\é\\/a/i".toList :=
    Or.inr ⟨.pattern, by rfl⟩
  obtain ⟨before, rest, -, -, -, -, htoken⟩ := literal_ends_alike _ 3 hslash
  obtain ⟨body, letters, after, -, hparts, hskip, -, -, hsplit, -⟩ := htoken _ hconsumes
  exact ⟨hslash, hconsumes, body, letters, hparts, hskip, hsplit⟩

end Cursor

end Path

end PathQuery
