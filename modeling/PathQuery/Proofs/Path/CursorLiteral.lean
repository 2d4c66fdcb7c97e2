import PathQuery.Proofs.Path.Bytes
import PathQuery.Proofs.Path.RegexText

/-!
# Cutting a literal at its bytes

A literal of a regular expression is split by going back through its bytes to a slash
with an even number of backslash bytes before it.  No character but a slash has a byte
that looks like one, and the same holds of backslashes, so the parts are those that are
found character by character, and the two cuts are between characters.
-/

namespace PathQuery.Path.Cursor

/-- Only an ASCII character has the byte of an ASCII character. -/
theorem ne_of_mem_utf8EncodeChar {c d : Char} (hd : d.toNat < 128) (hne : c ≠ d) :
    ∀ byte ∈ String.utf8EncodeChar c, byte ≠ UInt8.ofNat d.toNat := by
  rcases Nat.lt_or_ge c.toNat 128 with hc | hc
  · rw [utf8EncodeChar_of_ascii hc]
    intro byte hbyte
    rw [List.mem_singleton.1 hbyte]
    intro hsame
    have hnumber := congrArg UInt8.toNat hsame
    rw [UInt8.toNat_ofNat', UInt8.toNat_ofNat'] at hnumber
    exact hne (Char.toNat_inj.1 (by omega))
  · rintro byte hbyte rfl
    have hle := le_of_mem_utf8EncodeChar hc _ hbyte
    rw [UInt8.toNat_ofNat'] at hle
    omega

/-- There are as many backslash bytes at the end of a text as backslashes. -/
theorem escapes_utf8 (text : List Char) :
    ((utf8 text).reverse.takeWhile fun byte => byte == 92).length =
      (text.reverse.takeWhile (· == '\\')).length := by
  induction text using List.reverseRecOn with
  | nil => rfl
  | append_singleton text c ih =>
      rw [utf8_append, List.reverse_append, List.reverse_append, List.reverse_singleton,
        List.singleton_append]
      by_cases hc : c = '\\'
      · subst hc
        have hbytes : (utf8 ['\\']).reverse = [92] := by decide
        rw [hbytes, List.singleton_append, List.takeWhile_cons_of_pos (by decide),
          List.takeWhile_cons_of_pos (by decide), List.length_cons, List.length_cons, ih]
      · have hbytes : ∀ byte ∈ (utf8 [c]).reverse, byte ≠ 92 := by
          intro byte hbyte
          rw [List.mem_reverse, utf8, List.flatMap_singleton] at hbyte
          exact ne_of_mem_utf8EncodeChar (by decide) hc byte hbyte
        have hne : (utf8 [c]).reverse ≠ [] := by
          have hsize := c.utf8Size_pos
          have hlength := length_utf8 [c]
          rw [Text.byteLength_cons] at hlength
          rw [List.ne_nil_iff_length_pos, List.length_reverse]
          omega
        obtain ⟨byte, bytes, heq⟩ := List.exists_cons_of_ne_nil hne
        rw [heq] at hbytes ⊢
        rw [List.cons_append, List.takeWhile_cons_of_neg (by simpa using hbytes byte (by simp)),
          List.takeWhile_cons_of_neg (by simpa using hc)]
        rfl

theorem byteLength_reverse (text : List Char) :
    Text.byteLength text.reverse = Text.byteLength text := by
  induction text with
  | nil => rfl
  | cons c text ih => simp [ih, Nat.add_comm]

theorem escapedAt_append (before after : List Char) :
    escapedAt ('/' :: (before.reverse ++ after)) (Text.byteLength before + 1) =
      RegexLiteral.isEscaped before := by
  have hlength : (utf8 ('/' :: before.reverse)).length = Text.byteLength before + 1 := by
    rw [length_utf8, Text.byteLength_cons, byteLength_reverse, utf8Size_of_ascii (by decide),
      Nat.add_comm]
  rw [escapedAt, ← List.cons_append, utf8_append, ← hlength, List.take_left, escapes_utf8,
    List.reverse_cons, List.reverse_reverse]
  exact RegexLiteral.isEscaped_append_of_ne (by decide) before

/-- Inside of a character there is no slash to go back to. -/
theorem lastSlash_inside (before : List Char) (c : Char) (after : List Char) {inside : Nat}
    (hinside : inside < c.utf8Size) :
    lastSlash ('/' :: (before ++ c :: after)) (Text.byteLength before + 1 + inside) =
      lastSlash ('/' :: (before ++ c :: after)) (Text.byteLength before + 1) := by
  induction inside with
  | zero => rfl
  | succ inside ih =>
      have hwide : 128 ≤ c.toNat := by
        by_contra hascii
        rw [utf8Size_of_ascii (Nat.not_le.1 hascii)] at hinside
        omega
      obtain ⟨b, hb, hle⟩ := byteAt_wide hwide after hinside
      have hbyte := byteAt_append ('/' :: before) (c :: after) (inside + 1)
      rw [hb, Text.byteLength_cons, utf8Size_of_ascii (by decide), Nat.add_comm 1,
        ← Nat.add_assoc, List.cons_append] at hbyte
      have hslash : ¬ b = '/' := by
        rintro rfl
        exact absurd hle (by decide)
      rw [← Nat.add_assoc, lastSlash, hbyte, if_neg fun h => hslash (Option.some.inj h.1),
        ih (by omega)]

/-- Going back through the bytes finds the slash that going back through the characters
does. -/
theorem lastSlash_eq (before after : List Char) :
    lastSlash ('/' :: (before.reverse ++ after)) (Text.byteLength before) =
      (RegexLiteral.splitBack before after).map fun parts => Text.byteLength parts.1 + 1 := by
  induction before generalizing after with
  | nil => rfl
  | cons c before ih =>
      obtain ⟨inside, hinside⟩ : ∃ n, c.utf8Size = 1 + n :=
        ⟨c.utf8Size - 1, by have := c.utf8Size_pos; omega⟩
      have hback := @lastSlash_inside before.reverse c after inside (by omega)
      rw [byteLength_reverse] at hback
      have hbyte := byteAt_append ('/' :: before.reverse) (c :: after) 0
      rw [byteAt_cons, Text.byteLength_cons, byteLength_reverse, utf8Size_of_ascii (by decide),
        Nat.add_zero, Nat.add_comm 1, List.cons_append] at hbyte
      rw [Text.byteLength_cons, List.reverse_cons, List.append_assoc, List.singleton_append,
        hinside, Nat.add_comm, ← Nat.add_assoc, hback, lastSlash, hbyte,
        escapedAt_append before (c :: after), RegexLiteral.splitBack]
      simp (disch := decide) only [Option.some.injEq, lead_eq_iff]
      split_ifs
      · rw [Option.map_some, byteLength_reverse]
      · exact ih (c :: after)

theorem splitBack_eq_some {before after pattern letters : List Char}
    (h : RegexLiteral.splitBack before after = some (pattern, letters)) :
    before.reverse ++ after = pattern ++ '/' :: letters := by
  induction before generalizing after with
  | nil => cases h
  | cons c before ih =>
      rw [RegexLiteral.splitBack] at h
      rw [List.reverse_cons, List.append_assoc, List.singleton_append]
      split_ifs at h with hslash
      · cases h
        rw [hslash.1]
      · exact ih h

/-- The cuts in a literal have an answer, and give the parts that it is split into. -/
theorem splitLiteral_eq (token : List Char) :
    splitLiteral token = some (RegexLiteral.split? token) := by
  cases token with
  | nil => rfl
  | cons c rest =>
      rw [splitLiteral, byteAt_cons]
      by_cases hc : c = '/'
      · subst hc
        have hlast := lastSlash_eq rest.reverse []
        have hlength : (utf8 ('/' :: rest)).length - 1 = Text.byteLength rest := by
          rw [length_utf8, Text.byteLength_cons, utf8Size_of_ascii (by decide)]
          omega
        rw [List.reverse_reverse, List.append_nil, byteLength_reverse] at hlast
        rw [if_pos (by rw [lead_of_ascii (by decide)]), hlength, hlast, RegexLiteral.split?]
        cases hsplit : RegexLiteral.splitBack rest.reverse [] with
        | none => rfl
        | some parts =>
            obtain ⟨pattern, letters⟩ := parts
            have hrest := splitBack_eq_some hsplit
            rw [List.reverse_reverse, List.append_nil] at hrest
            subst hrest
            have hascii : '/'.toNat < 128 := by decide
            have hrest : pattern ++ '/' :: letters <:+ '/' :: (pattern ++ '/' :: letters) :=
              List.suffix_cons _ _
            have hletters : '/' :: letters <:+ '/' :: (pattern ++ '/' :: letters) :=
              (List.suffix_append pattern _).trans hrest
            have hstart := placeOf_ascii hascii
              (List.suffix_rfl (l := '/' :: (pattern ++ '/' :: letters)))
            rw [placeOf_self, Nat.zero_add] at hstart
            have hstop := placeOf_token hrest
            rw [← hstart, Nat.add_comm] at hstop
            have hpattern := slice_placeOf hrest
            have hflags := textFrom_placeOf ((List.suffix_cons '/' letters).trans hletters)
            rw [← hstart, ← hstop] at hpattern
            rw [← placeOf_ascii hascii hletters, ← hstop] at hflags
            simp only [Option.map_some]
            rw [hpattern, Option.bind_eq_bind, Option.bind_some, hflags]
            rfl
      · rw [if_neg fun h => hc ((lead_eq_iff (by decide)).1 (Option.some.inj h))]
        rw [RegexLiteral.split?]
        rintro rest hshape
        cases hshape
        exact hc rfl

end PathQuery.Path.Cursor
