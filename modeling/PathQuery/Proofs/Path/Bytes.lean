import PathQuery.Proofs.Path.Cursor
import PathQuery.Proofs.Runs

/-!
# Places in the bytes of a text

Each end of a text begins at a place, which the bytes before it make up.  This module
tells what a cursor finds at such a place: the first byte of the next character, which is
the character itself if it is an ASCII character and lies beyond all of them otherwise.
So a test for ASCII characters may be made at bytes, and a cut between two such places
gives the text between them.
-/

namespace PathQuery.Path

/-! ## The bytes of a character -/

section Characters

variable {c : Char}

theorem utf8Size_of_ascii (hc : c.toNat < 128) : c.utf8Size = 1 := by
  refine Char.utf8Size_eq_one_iff.2 (UInt32.le_iff_toNat_le.2 ?_)
  have hvalue : c.val.toNat = c.toNat := rfl
  have hlimit : (127 : UInt32).toNat = 127 := rfl
  omega

/-- The only byte of an ASCII character is its number. -/
theorem utf8EncodeChar_of_ascii (hc : c.toNat < 128) :
    String.utf8EncodeChar c = [UInt8.ofNat c.toNat] := by
  have hvalue : c.val.toNat ≤ 127 := Nat.le_of_lt_succ hc
  rw [String.utf8EncodeChar]
  simp only [hvalue, if_true]
  rfl

/-- The bytes of any other character lie beyond the ASCII characters. -/
theorem le_of_mem_utf8EncodeChar (hc : 128 ≤ c.toNat) :
    ∀ byte ∈ String.utf8EncodeChar c, 128 ≤ byte.toNat := by
  have hvalue : ¬ c.val.toNat ≤ 127 := Nat.not_le.2 hc
  rw [String.utf8EncodeChar]
  simp only [hvalue, if_false]
  split_ifs
  all_goals
    simp only [List.forall_mem_cons, UInt8.toNat_ofNat', List.not_mem_nil, false_imp_iff,
      implies_true, and_true]
    omega

end Characters

/-! ## The bytes of a text -/

/-- The byte of a number, shown as the character of the number. -/
theorem toNat_shown (byte : UInt8) : (Char.ofNat byte.toNat).toNat = byte.toNat := by
  have hbyte := byte.toNat_lt
  rw [Char.ofNat, dif_pos (Or.inl (by omega))]
  rfl

theorem utf8_append (before rest : List Char) :
    utf8 (before ++ rest) = utf8 before ++ utf8 rest :=
  List.flatMap_append

theorem length_utf8 (text : List Char) : (utf8 text).length = Text.byteLength text := by
  induction text with
  | nil => rfl
  | cons c rest ih =>
      rw [utf8, List.flatMap_cons, List.length_append, String.length_utf8EncodeChar, ← utf8, ih,
        Text.byteLength_cons]

theorem byteLength_le_of_suffix {rest text : List Char} (h : rest <:+ text) :
    Text.byteLength rest ≤ Text.byteLength text := by
  obtain ⟨before, rfl⟩ := h
  rw [Text.byteLength_append]
  exact Nat.le_add_left _ _

theorem length_le_byteLength (text : List Char) : text.length ≤ Text.byteLength text := by
  induction text with
  | nil => exact Nat.le_refl 0
  | cons c rest ih =>
      have hsize := c.utf8Size_pos
      rw [List.length_cons, Text.byteLength_cons]
      omega

theorem utf8_ascii {c : Char} (hc : c.toNat < 128) (rest : List Char) :
    utf8 (c :: rest) = UInt8.ofNat c.toNat :: utf8 rest := by
  rw [utf8, List.flatMap_cons, utf8EncodeChar_of_ascii hc]
  rfl

theorem byteAt_append (before rest : List Char) (place : Nat) :
    byteAt (before ++ rest) (Text.byteLength before + place) = byteAt rest place := by
  rw [byteAt, utf8_append, ← length_utf8, List.getElem?_append_right (Nat.le_add_right _ _),
    Nat.add_sub_cancel_left, byteAt]

theorem byteAt_ascii {c : Char} (hc : c.toNat < 128) (rest : List Char) :
    byteAt (c :: rest) 0 = some c := by
  rw [byteAt, utf8_ascii hc]
  have hbyte : (UInt8.ofNat c.toNat).toNat = c.toNat := by
    rw [UInt8.toNat_ofNat']
    omega
  simp [hbyte, Char.ofNat_toNat]

/-- All the bytes of a character that is not an ASCII character lie beyond those. -/
theorem byteAt_wide {c : Char} (hc : 128 ≤ c.toNat) (rest : List Char) {place : Nat}
    (hplace : place < c.utf8Size) : ∃ b, byteAt (c :: rest) place = some b ∧ 128 ≤ b.toNat := by
  rw [← String.length_utf8EncodeChar] at hplace
  refine ⟨Char.ofNat ((String.utf8EncodeChar c)[place]).toNat, ?_, ?_⟩
  · rw [byteAt, utf8, List.flatMap_cons, List.getElem?_append_left hplace,
      List.getElem?_eq_getElem hplace, Option.map_some]
  · rw [toNat_shown]
    exact le_of_mem_utf8EncodeChar hc _ (List.getElem_mem hplace)

/-! ## First bytes -/

/-- The first byte of a character, shown as a character. -/
def lead (c : Char) : Char :=
  Char.ofNat ((String.utf8EncodeChar c).headD 0).toNat

/-- If all characters of a kind are ASCII characters. -/
def AsciiKind (kind : Char → Bool) : Prop :=
  ∀ c, kind c = true → c.toNat < 128

section Lead

variable {c d : Char}

theorem byteAt_cons (c : Char) (rest : List Char) : byteAt (c :: rest) 0 = some (lead c) := by
  rw [byteAt, utf8, List.flatMap_cons, lead]
  have hpos : 0 < (String.utf8EncodeChar c).length := by
    rw [String.length_utf8EncodeChar]
    exact c.utf8Size_pos
  cases hbytes : String.utf8EncodeChar c with
  | nil => simp [hbytes] at hpos
  | cons byte bytes => rfl

theorem lead_of_ascii (hc : c.toNat < 128) : lead c = c :=
  Option.some.inj ((byteAt_cons c []).symm.trans (byteAt_ascii hc []))

theorem le_lead (hc : 128 ≤ c.toNat) : 128 ≤ (lead c).toNat := by
  obtain ⟨b, hb, hle⟩ := byteAt_wide hc [] c.utf8Size_pos
  rw [byteAt_cons] at hb
  rwa [Option.some.inj hb]

/-- A test for ASCII characters may be made at the first byte. -/
theorem AsciiKind.lead {kind : Char → Bool} (hkind : AsciiKind kind) (c : Char) :
    kind (lead c) = kind c := by
  rcases Nat.lt_or_ge c.toNat 128 with hc | hc
  · rw [lead_of_ascii hc]
  · have hlead := le_lead hc
    have hfalse : ∀ d : Char, 128 ≤ d.toNat → kind d = false := by
      intro d hd
      by_contra h
      exact absurd (hkind d (by simpa using h)) (Nat.not_lt.2 hd)
    rw [hfalse _ hlead, hfalse _ hc]

theorem lead_eq_iff (hd : d.toNat < 128) : lead c = d ↔ c = d := by
  have hkind : AsciiKind (· == d) := by
    intro c hc
    rwa [eq_of_beq hc]
  have hlead := hkind.lead c
  rw [Bool.eq_iff_iff, beq_iff_eq, beq_iff_eq] at hlead
  exact hlead

theorem asciiKind_isBlank : AsciiKind Text.isBlank := by
  intro c hc
  simp only [Text.isBlank, Bool.or_eq_true, beq_iff_eq] at hc
  rcases hc with (((h | h) | h) | h) | h <;> subst h <;> decide

theorem toNat_lt_of_isDigit (hc : c.isDigit = true) : c.toNat < 128 := by
  simp only [Char.isDigit, Bool.and_eq_true, decide_eq_true_eq] at hc
  have hle : c.toNat ≤ '9'.toNat := UInt32.le_iff_toNat_le.1 hc.2
  exact Nat.lt_of_le_of_lt hle (by decide)

theorem asciiKind_isIndexChar : AsciiKind isIndexChar := by
  intro c hc
  simp only [isIndexChar, Bool.or_eq_true, beq_iff_eq] at hc
  rcases hc with h | rfl
  · exact toNat_lt_of_isDigit h
  · decide

theorem asciiKind_isNumberChar : AsciiKind isNumberChar := by
  intro c hc
  simp only [isNumberChar, Bool.or_eq_true, beq_iff_eq] at hc
  rcases hc with ((((h | rfl) | rfl) | rfl) | rfl) | rfl
  · exact toNat_lt_of_isDigit h
  all_goals decide

theorem asciiKind_isAlpha : AsciiKind Char.isAlpha := by
  intro c hc
  have hcases : c.isUpper = true ∨ c.isLower = true := Bool.or_eq_true_iff.1 hc
  rcases hcases with h | h
  · have hval : c.val ≥ 'A'.val ∧ c.val ≤ 'Z'.val := of_decide_eq_true h
    have hle : c.toNat ≤ 'Z'.toNat := UInt32.le_iff_toNat_le.1 hval.2
    exact Nat.lt_of_le_of_lt hle (by decide)
  · have hbounds : (decide (c.val ≥ 'a'.val) && decide (c.val ≤ 'z'.val)) = true := h
    have hval : c.val ≤ 'z'.val := of_decide_eq_true (Bool.and_eq_true_iff.1 hbounds).2
    have hle : c.toNat ≤ 'z'.toNat := UInt32.le_iff_toNat_le.1 hval
    exact Nat.lt_of_le_of_lt hle (by decide)

theorem asciiKind_endsComparison : AsciiKind endsComparison := by
  intro c hc
  simp only [endsComparison, Bool.or_eq_true, beq_iff_eq] at hc
  rcases hc with (rfl | rfl) | rfl
  all_goals decide

end Lead

/-! ## Places -/

/-- The place at which an end of a text begins. -/
def placeOf (text rest : List Char) : Nat :=
  Text.byteLength text - Text.byteLength rest

theorem placeOf_append (before rest : List Char) :
    placeOf (before ++ rest) rest = Text.byteLength before := by
  rw [placeOf, Text.byteLength_append, Nat.add_sub_cancel]

theorem placeOf_self (text : List Char) : placeOf text text = 0 :=
  Nat.sub_self _

section Places

variable {text rest : List Char}

/-- The place behind a token is as far on as the token is long. -/
theorem placeOf_token {token : List Char} (h : token ++ rest <:+ text) :
    placeOf text (token ++ rest) + Text.byteLength token = placeOf text rest := by
  obtain ⟨before, rfl⟩ := h
  rw [placeOf_append, ← List.append_assoc, placeOf_append, Text.byteLength_append]

theorem placeOf_cons {c : Char} (h : c :: rest <:+ text) :
    placeOf text (c :: rest) + c.utf8Size = placeOf text rest :=
  @placeOf_token text rest [c] h

theorem placeOf_lt {c : Char} {token : List Char} (h : c :: token ++ rest <:+ text) :
    placeOf text (c :: token ++ rest) < placeOf text rest := by
  have htoken := placeOf_token h
  have hsize := c.utf8Size_pos
  rw [Text.byteLength_cons] at htoken
  omega

theorem placeOf_ascii {c : Char} (hc : c.toNat < 128) (h : c :: rest <:+ text) :
    placeOf text (c :: rest) + 1 = placeOf text rest := by
  rw [← placeOf_cons h, utf8Size_of_ascii hc]

theorem placeOf_le (text rest : List Char) : placeOf text rest ≤ Text.byteLength text :=
  Nat.sub_le _ _

/-- What lies further on has a later place. -/
theorem placeOf_mono (text : List Char) {left : List Char} (h : left <:+ rest) :
    placeOf text rest ≤ placeOf text left := by
  have hlength := byteLength_le_of_suffix h
  rw [placeOf, placeOf]
  omega

/-- A token that takes no place is empty. -/
theorem eq_nil_of_placeOf_eq {token : List Char} (h : token ++ rest <:+ text)
    (hplace : placeOf text rest ≤ placeOf text (token ++ rest)) : token = [] := by
  have htoken := placeOf_token h
  have hlength := length_le_byteLength token
  exact List.eq_nil_of_length_eq_zero (by omega)

/-- The bytes at an end of a text are those of the end. -/
theorem byteAt_placeOf (h : rest <:+ text) (further : Nat) :
    byteAt text (placeOf text rest + further) = byteAt rest further := by
  obtain ⟨before, rfl⟩ := h
  rw [placeOf_append, byteAt_append]

theorem byteAt_head (h : rest <:+ text) :
    byteAt text (placeOf text rest) = rest.head?.map lead := by
  rw [← Nat.add_zero (placeOf text rest), byteAt_placeOf h]
  cases rest with
  | nil => rfl
  | cons c rest => exact byteAt_cons c rest

/-- Behind an ASCII character stands the first byte of the next one. -/
theorem byteAt_next {c : Char} (hc : c.toNat < 128) (h : c :: rest <:+ text) :
    byteAt text (placeOf text (c :: rest) + 1) = rest.head?.map lead := by
  rw [placeOf_ascii hc h, byteAt_head ((List.suffix_cons c rest).trans h)]

theorem drop_placeOf (h : rest <:+ text) : (utf8 text).drop (placeOf text rest) = utf8 rest := by
  obtain ⟨before, rfl⟩ := h
  rw [placeOf_append, utf8_append, ← length_utf8, List.drop_left]

/-- No place is inside of a character. -/
theorem textFrom_placeOf (h : rest <:+ text) : textFrom text (placeOf text rest) = some rest := by
  obtain ⟨before, rfl⟩ := h
  rw [placeOf_append]
  induction before with
  | nil =>
      rw [List.nil_append, Text.byteLength_nil, textFrom.eq_def]
  | cons c before ih =>
      have hsize := c.utf8Size_pos
      obtain ⟨place, hplace⟩ : ∃ place, c.utf8Size + Text.byteLength before = place + 1 :=
        ⟨c.utf8Size + Text.byteLength before - 1, by omega⟩
      rw [Text.byteLength_cons, List.cons_append, hplace, textFrom, ← hplace,
        if_pos (Nat.le_add_right _ _), Nat.add_sub_cancel_left, ih]

theorem textUpTo_append (token rest : List Char) :
    textUpTo (token ++ rest) (Text.byteLength token) = some token := by
  induction token with
  | nil => rw [List.nil_append, Text.byteLength_nil, textUpTo.eq_def]
  | cons c token ih =>
      have hsize := c.utf8Size_pos
      obtain ⟨place, hplace⟩ : ∃ place, c.utf8Size + Text.byteLength token = place + 1 :=
        ⟨c.utf8Size + Text.byteLength token - 1, by omega⟩
      rw [Text.byteLength_cons, List.cons_append, hplace, textUpTo, ← hplace,
        if_pos (Nat.le_add_right _ _), Nat.add_sub_cancel_left, ih, Option.map_some]

/-- A cut between two places gives the token between them. -/
theorem slice_placeOf {token : List Char} (h : token ++ rest <:+ text) :
    slice text (placeOf text (token ++ rest)) (placeOf text rest) = some token := by
  rw [slice, ← placeOf_token h, if_pos (Nat.le_add_right _ _), textFrom_placeOf h,
    Option.bind_some, Nat.add_sub_cancel_left, textUpTo_append]

theorem charAt?_placeOf (h : rest <:+ text) : charAt? text (placeOf text rest) = rest.head? := by
  rw [charAt?, textFrom_placeOf h, Option.bind_some]

/-- A token of ASCII characters is found byte by byte. -/
theorem isPrefixOf_utf8 {token : List Char} (htoken : ∀ c ∈ token, c.toNat < 128)
    (rest : List Char) : (utf8 token).isPrefixOf (utf8 rest) = token.isPrefixOf rest := by
  induction token generalizing rest with
  | nil => rfl
  | cons d token ih =>
      have hd : d.toNat < 128 := htoken d List.mem_cons_self
      have ih := ih fun c hc => htoken c (List.mem_cons_of_mem d hc)
      cases rest with
      | nil =>
          rw [utf8_ascii hd]
          rfl
      | cons c rest =>
          by_cases hsame : c = d
          · rw [hsame, utf8_ascii hd, utf8_ascii hd, List.isPrefixOf_cons_cons_self, ih,
              List.isPrefixOf_cons_cons_self]
          · have hfirst := byteAt_cons c rest
            cases hbytes : utf8 (c :: rest) with
            | nil => simp [byteAt, hbytes] at hfirst
            | cons byte bytes =>
                have hbyte : UInt8.ofNat d.toNat ≠ byte := by
                  rintro rfl
                  have hd' := byteAt_ascii hd []
                  rw [byteAt, hbytes] at hfirst
                  rw [byteAt, utf8_ascii hd] at hd'
                  refine hsame ((lead_eq_iff hd).1 (Option.some.inj ?_))
                  exact hfirst.symm.trans hd'
                rw [utf8_ascii hd, List.isPrefixOf_cons_cons, List.isPrefixOf_cons_cons,
                  beq_false_of_ne hbyte, beq_false_of_ne (Ne.symm hsame), Bool.false_and,
                  Bool.false_and]

end Places

end PathQuery.Path
