import PathQuery.Proofs.Number.NumeralText

/-!
# Reading numerals

The reader of numerals accepts nothing else than their texts: what it has taken off the
front of a text is a text of the numeral that it answers.  So a text denotes a number if
and only if it is one of the texts of that number.
-/

namespace PathQuery

namespace Numeral

variable {text rest : List Char}

/-- A run that is not empty consists of digits and stands in front of the text. -/
theorem digits_of_span {digits : List Char} (h : text.span Char.isDigit = (digits, rest))
    (hnonempty : digits ≠ []) : Digits digits ∧ text = digits ++ rest := by
  obtain ⟨run, left, rfl, hrun, hleft⟩ := exists_run Char.isDigit text
  rw [span_run hrun hleft] at h
  obtain ⟨rfl, rfl⟩ := Prod.mk.inj h
  exact ⟨⟨hnonempty, hrun⟩, rfl⟩

/-- The digits before the point are taken as they stand; behind a zero in front there are none. -/
theorem readWhole_eq_some {whole : List Char} (h : readWhole text = some (whole, rest)) :
    Digits whole ∧ (whole.head? = some '0' → whole = ['0']) ∧ text = whole ++ rest := by
  unfold readWhole at h
  split at h
  next => cases h
  next => cases h
  next hempty hzero hspan =>
    obtain ⟨rfl, rfl⟩ := Prod.mk.inj (Option.some.inj h)
    obtain ⟨hdigits, htext⟩ := digits_of_span hspan hempty
    refine ⟨hdigits, ?_, htext⟩
    intro hhead
    obtain ⟨more, rfl⟩ := List.head?_eq_some_iff.1 hhead
    by_contra hmore
    obtain ⟨c, others, rfl⟩ := List.exists_cons_of_ne_nil (mt (congrArg ('0' :: ·)) hmore)
    exact hzero c others rfl

theorem readFraction_eq_some {fraction : Option (List Char)}
    (h : readFraction text = some (fraction, rest)) :
    ∃ front, FractionText fraction front ∧ text = front ++ rest := by
  unfold readFraction at h
  split at h
  next after =>
    split at h
    next => cases h
    next hempty hspan =>
      obtain ⟨rfl, rfl⟩ := Prod.mk.inj (Option.some.inj h)
      obtain ⟨hdigits, rfl⟩ := digits_of_span hspan hempty
      exact ⟨_, .present hdigits, rfl⟩
  next =>
    obtain ⟨rfl, rfl⟩ := Prod.mk.inj (Option.some.inj h)
    exact ⟨[], .absent, rfl⟩

theorem readExponentDigits_eq_some {negative : Bool} {exponent : Option (Bool × List Char)}
    (h : readExponentDigits negative text = some (exponent, rest)) :
    ∃ digits, exponent = some (negative, digits) ∧ Digits digits ∧ text = digits ++ rest := by
  unfold readExponentDigits at h
  split at h
  next => cases h
  next hempty hspan =>
    obtain ⟨rfl, rfl⟩ := Prod.mk.inj (Option.some.inj h)
    exact ⟨_, rfl, digits_of_span hspan hempty⟩

theorem readExponent_eq_some {exponent : Option (Bool × List Char)}
    (h : readExponent text = some (exponent, rest)) :
    ∃ front, ExponentText exponent front ∧ text = front ++ rest := by
  unfold readExponent at h
  split at h
  next c after =>
    split at h
    next hletter =>
      have hsigned : ∃ negative sign digits, exponent = some (negative, digits) ∧
          ExponentSign negative sign ∧ Digits digits ∧ after = sign ++ (digits ++ rest) := by
        split at h
        next =>
          obtain ⟨digits, hexponent, hdigits, rfl⟩ := readExponentDigits_eq_some h
          exact ⟨false, _, digits, hexponent, .plus, hdigits, rfl⟩
        next =>
          obtain ⟨digits, hexponent, hdigits, rfl⟩ := readExponentDigits_eq_some h
          exact ⟨true, _, digits, hexponent, .minus, hdigits, rfl⟩
        next =>
          obtain ⟨digits, hexponent, hdigits, rfl⟩ := readExponentDigits_eq_some h
          exact ⟨false, _, digits, hexponent, .absent, hdigits, rfl⟩
      obtain ⟨negative, sign, digits, rfl, hsign, hdigits, rfl⟩ := hsigned
      refine ⟨_, .present hletter hsign hdigits, ?_⟩
      rw [List.cons_append, List.append_assoc]
    next =>
      obtain ⟨rfl, rfl⟩ := Prod.mk.inj (Option.some.inj h)
      exact ⟨[], .absent, rfl⟩
  next =>
    obtain ⟨rfl, rfl⟩ := Prod.mk.inj (Option.some.inj h)
    exact ⟨[], .absent, rfl⟩

/-- What the reader has taken off a text is a text of its numeral. -/
theorem read_eq_some {numeral : Numeral} (h : read text = some (numeral, rest)) :
    ∃ front, numeral.IsText front ∧ text = front ++ rest := by
  unfold read at h
  split at h
  next negative unsigned hsign =>
    have htext : text = sign negative ++ unsigned := by
      split at hsign
      next =>
        obtain ⟨rfl, rfl⟩ := Prod.mk.inj hsign
        rfl
      next =>
        obtain ⟨rfl, rfl⟩ := Prod.mk.inj hsign
        rfl
    subst htext
    obtain ⟨⟨whole, afterWhole⟩, hwhole, hread⟩ := Option.bind_eq_some_iff.1 h
    obtain ⟨⟨fraction, afterFraction⟩, hfraction, hread⟩ := Option.bind_eq_some_iff.1 hread
    obtain ⟨⟨exponent, afterExponent⟩, hexponent, hread⟩ := Option.bind_eq_some_iff.1 hread
    obtain ⟨rfl, rfl⟩ := Prod.mk.inj (Option.some.inj hread)
    obtain ⟨hdigits, hzero, rfl⟩ := readWhole_eq_some hwhole
    obtain ⟨fractionText, hfractionText, rfl⟩ := readFraction_eq_some hfraction
    obtain ⟨exponentText, hexponentText, rfl⟩ := readExponent_eq_some hexponent
    refine ⟨_, .parts hdigits hzero hfractionText hexponentText, ?_⟩
    simp only [List.append_assoc]

end Numeral

/-- A text denotes a number if it is one of the texts of that number. -/
theorem Number.ofText?_eq_some_iff {number : Number} {text : List Char} :
    Number.ofText? text = some number ↔ number.IsText text := by
  constructor
  · intro h
    unfold Number.ofText? at h
    split at h
    next numeral hread =>
      obtain ⟨front, hfront, htext⟩ := Numeral.read_eq_some hread
      rw [List.append_nil] at htext
      exact ⟨numeral, htext ▸ hfront, h⟩
    next => cases h
  · exact Number.ofText?_text

end PathQuery
