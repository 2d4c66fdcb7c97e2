import PathQuery.Number.Numeral
import PathQuery.Proofs.Runs

/-!
# The texts of numerals

The texts of a numeral are told part by part, without a reader: a sign, digits,
a fraction and an exponent.  The reader of numerals finds exactly these parts
again.
-/

namespace PathQuery

/-- Decimal digits, at least one. -/
structure Digits (text : List Char) : Prop where
  nonempty : text ≠ []
  all : ∀ c ∈ text, c.isDigit = true

namespace Numeral

/-- The texts of a fraction. -/
inductive FractionText : Option (List Char) → List Char → Prop
  | absent : FractionText none []
  | present {digits : List Char} :
      Digits digits → FractionText (some digits) ('.' :: digits)

/-- The signs of an exponent. -/
inductive ExponentSign : Bool → List Char → Prop
  | absent : ExponentSign false []
  | plus : ExponentSign false ['+']
  | minus : ExponentSign true ['-']

/-- The texts of an exponent. -/
inductive ExponentText : Option (Bool × List Char) → List Char → Prop
  | absent : ExponentText none []
  | present {letter : Char} {negative : Bool} {sign digits : List Char} :
      letter = 'e' ∨ letter = 'E' → ExponentSign negative sign → Digits digits →
      ExponentText (some (negative, digits)) (letter :: (sign ++ digits))

/-- The sign in front of a numeral. -/
def sign (negative : Bool) : List Char :=
  if negative then ['-'] else []

/-- The texts of a numeral; the digits in front of the point are a zero alone or
start with no zero. -/
inductive IsText : Numeral → List Char → Prop
  | parts {negative : Bool} {whole : List Char} {fraction : Option (List Char)}
      {exponent : Option (Bool × List Char)} {fractionText exponentText : List Char} :
      Digits whole → (whole.head? = some '0' → whole = ['0']) →
      FractionText fraction fractionText → ExponentText exponent exponentText →
      IsText ⟨negative, whole, fraction, exponent⟩
        (sign negative ++ (whole ++ (fractionText ++ exponentText)))

/-- No digit begins an exponent. -/
theorem ExponentText.head_not_digit
    {exponent : Option (Bool × List Char)} {text : List Char}
    (htext : ExponentText exponent text) :
    ∀ c ∈ text.head?, c.isDigit = false := by
  cases htext with
  | absent => simp
  | present hletter _ _ =>
      rcases hletter with rfl | rfl
      · simp
      · simp

/-- No digit begins a fraction with what may stand behind it. -/
theorem FractionText.head_not_digit
    {fraction : Option (List Char)} {text rest : List Char}
    (htext : FractionText fraction text)
    (hrest : ∀ c ∈ rest.head?, c.isDigit = false) :
    ∀ c ∈ (text ++ rest).head?, c.isDigit = false := by
  cases htext with
  | absent => exact hrest
  | present hdigits => simp

theorem readWhole_digits
    {whole rest : List Char}
    (hwhole : Digits whole) (hzero : whole.head? = some '0' → whole = ['0'])
    (hrest : ∀ c ∈ rest.head?, c.isDigit = false) :
    readWhole (whole ++ rest) = some (whole, rest) := by
  rw [readWhole, span_run hwhole.all hrest]
  split
  next h => exact absurd (congrArg Prod.fst h) hwhole.nonempty
  next h =>
    have hshape := congrArg Prod.fst h
    simp only at hshape
    have hone := hzero (by rw [hshape]; rfl)
    rw [hone] at hshape
    cases hshape
  next h => rw [← h]

theorem readExponentDigits_digits
    {digits : List Char} (negative : Bool) (hdigits : Digits digits) :
    readExponentDigits negative digits = some (some (negative, digits), []) := by
  have hspan : digits.span Char.isDigit = (digits, []) := by
    have hend : ∀ c ∈ ([] : List Char).head?, c.isDigit = false := by simp
    have hrun := span_run hdigits.all hend
    rwa [List.append_nil] at hrun
  rw [readExponentDigits, hspan]
  split
  next h => exact absurd (congrArg Prod.fst h) hdigits.nonempty
  next h => rw [← (Prod.mk.inj h).1, ← (Prod.mk.inj h).2]

theorem readExponent_text
    {exponent : Option (Bool × List Char)} {text : List Char}
    (htext : ExponentText exponent text) :
    readExponent text = some (exponent, []) := by
  cases htext with
  | absent => rfl
  | @present letter negative sign digits hletter hsign hdigits =>
      unfold readExponent
      simp only [if_pos hletter]
      cases hsign with
      | plus => exact readExponentDigits_digits false hdigits
      | minus => exact readExponentDigits_digits true hdigits
      | absent =>
          obtain ⟨c, others, rfl⟩ := List.exists_cons_of_ne_nil hdigits.nonempty
          have hdigit : c.isDigit = true := hdigits.all c List.mem_cons_self
          rw [List.nil_append]
          split
          next hsame =>
            rw [(List.cons.inj hsame).1] at hdigit
            exact absurd hdigit (by decide)
          next hsame =>
            rw [(List.cons.inj hsame).1] at hdigit
            exact absurd hdigit (by decide)
          next => exact readExponentDigits_digits false hdigits

theorem readFraction_text
    {fraction : Option (List Char)} {text rest : List Char}
    (htext : FractionText fraction text)
    (hrest : ∀ c ∈ rest.head?, c.isDigit = false ∧ c ≠ '.') :
    readFraction (text ++ rest) = some (fraction, rest) := by
  unfold readFraction
  cases htext with
  | absent =>
      rw [List.nil_append]
      split
      next => exact absurd rfl (hrest '.' rfl).2
      next => rfl
  | @present digits hdigits =>
      have hspan : (digits ++ rest).span Char.isDigit = (digits, rest) :=
        span_run hdigits.all (fun c hc => (hrest c hc).1)
      simp only [List.cons_append, hspan]
      split
      next h => exact absurd (congrArg Prod.fst h) hdigits.nonempty
      next h => rw [← (Prod.mk.inj h).1, ← (Prod.mk.inj h).2]

/-- The reader finds the numeral of a text, and nothing is left. -/
theorem read_text
    {numeral : Numeral} {text : List Char}
    (htext : numeral.IsText text) :
    read text = some (numeral, []) := by
  cases htext with
  | @parts negative whole fraction exponent fractionText exponentText
      hwhole hzero hfraction hexponent =>
      have hlast : ∀ c ∈ exponentText.head?, c.isDigit = false ∧ c ≠ '.' := by
        cases hexponent with
        | absent => simp
        | present hletter _ _ =>
            rcases hletter with rfl | rfl
            · simp
            · simp
      have hreadWhole := readWhole_digits hwhole hzero
        (hfraction.head_not_digit hexponent.head_not_digit)
      have hreadFraction := readFraction_text hfraction hlast
      have hreadExponent := readExponent_text hexponent
      cases negative with
      | true =>
          simp [read, sign, hreadWhole, hreadFraction, hreadExponent]
      | false =>
          have hsign : ∀ rest, whole ++ (fractionText ++ exponentText) ≠ '-' :: rest := by
            intro rest hsame
            obtain ⟨c, digits, rfl⟩ := List.exists_cons_of_ne_nil hwhole.nonempty
            have hdigit := hwhole.all c List.mem_cons_self
            rw [(List.cons.inj hsame).1] at hdigit
            exact absurd hdigit (by decide)
          rw [sign, if_neg Bool.false_ne_true, List.nil_append]
          unfold read
          split
          next hsame =>
            split at hsame
            next hshape => exact absurd hshape (hsign _)
            next =>
              obtain ⟨rfl, rfl⟩ := Prod.mk.inj hsame
              simp [hreadWhole, hreadFraction, hreadExponent]

/-- The characters of a text of a numeral. -/
theorem IsText.chars
    {numeral : Numeral} {text : List Char}
    (htext : numeral.IsText text) :
    ∀ c ∈ text, c.isDigit = true ∨ c ∈ ['-', '+', '.', 'e', 'E'] := by
  cases htext with
  | @parts negative whole fraction exponent fractionText exponentText
      hwhole hzero hfraction hexponent =>
      intro c hc
      simp only [List.mem_append] at hc
      rcases hc with hc | hc | hc | hc
      · right
        cases negative with
        | true => simp_all [sign]
        | false => simp [sign] at hc
      · left
        exact hwhole.all c hc
      · cases hfraction with
        | absent => simp at hc
        | present hdigits =>
            rcases List.mem_cons.mp hc with rfl | hc
            · right
              decide
            · left
              exact hdigits.all c hc
      · cases hexponent with
        | absent => simp at hc
        | present hletter hsign hdigits =>
            simp only [List.mem_cons, List.mem_append] at hc
            rcases hc with rfl | hc | hc
            · right
              rcases hletter with rfl | rfl
              · decide
              · decide
            · right
              cases hsign with
              | absent => simp at hc
              | plus => simp_all
              | minus => simp_all
            · left
              exact hdigits.all c hc

/-- A text of a numeral begins with a digit or a hyphen. -/
theorem IsText.exists_cons
    {numeral : Numeral} {text : List Char}
    (htext : numeral.IsText text) :
    ∃ c rest, text = c :: rest ∧ (c.isDigit = true ∨ c = '-') := by
  cases htext with
  | @parts negative whole fraction exponent fractionText exponentText
      hwhole hzero hfraction hexponent =>
      cases negative with
      | true => exact ⟨'-', _, rfl, Or.inr rfl⟩
      | false =>
          obtain ⟨c, digits, rfl⟩ := List.exists_cons_of_ne_nil hwhole.nonempty
          exact ⟨c, _, rfl, Or.inl (hwhole.all c List.mem_cons_self)⟩

end Numeral

/-- The texts of a number: the numerals of which it is the value. -/
def Number.IsText (number : Number) (text : List Char) : Prop :=
  ∃ numeral : Numeral, numeral.IsText text ∧ numeral.value = some number

/-- A number is read from each of its texts. -/
theorem Number.ofText?_text
    {number : Number} {text : List Char}
    (htext : number.IsText text) :
    Number.ofText? text = some number := by
  obtain ⟨numeral, hnumeral, hvalue⟩ := htext
  rw [Number.ofText?, Numeral.read_text hnumeral]
  exact hvalue

/-! ## The texts of integers -/

theorem digits_toDigits (n : Nat) : Digits (Nat.toDigits 10 n) where
  nonempty := Nat.toDigits_ne_nil
  all := fun _ hc => Nat.isDigit_of_mem_toDigits (by decide) (by decide) hc

/-- The digits of a natural number have its value. -/
theorem foldl_toDigits (n : Nat) :
    (Nat.toDigits 10 n).foldl (fun n c => n * 10 + Numeral.digit c) 0 = n := by
  have hsame : (fun (n : Nat) c => n * 10 + Numeral.digit c) =
      fun n c => 10 * n + (c.toNat - '0'.toNat) := by
    funext n c
    rw [Numeral.digit, Nat.mul_comm]
  rw [hsame]
  exact Nat.ofDigitChars_ten_toDigits

theorem foldl_toDigits_int (n : Nat) :
    (Nat.toDigits 10 n).foldl (fun (n : Int) c => n * 10 + Numeral.digit c) 0 = n := by
  have hcast : ∀ (digits : List Char) (start : Nat),
      digits.foldl (fun (n : Int) c => n * 10 + Numeral.digit c) start =
        (digits.foldl (fun n c => n * 10 + Numeral.digit c) start : Nat) := by
    intro digits
    induction digits with
    | nil =>
        intro start
        rfl
    | cons c rest ih =>
        intro start
        rw [List.foldl_cons, List.foldl_cons, ← ih]
        push_cast
        rfl
  exact (hcast _ 0).trans (congrArg _ (foldl_toDigits n))

/-- Only zero begins with a zero: a quotient that did would be zero itself. -/
theorem toDigits_head (n : Nat) :
    (Nat.toDigits 10 n).head? = some '0' → Nat.toDigits 10 n = ['0'] := by
  induction n using Nat.strongRecOn with
  | ind n ih =>
      by_cases hsmall : n < 10
      · rw [Nat.toDigits_of_lt_base hsmall]
        intro hhead
        rw [Option.some.inj hhead]
      · have hlarge : 10 ≤ n := by omega
        intro hhead
        obtain ⟨c, others, hquotientDigits⟩ := List.exists_cons_of_ne_nil
          (digits_toDigits (n / 10)).nonempty
        rw [Nat.toDigits_of_base_le (by decide) hlarge, hquotientDigits, List.cons_append,
          List.head?_cons, ← List.head?_cons, ← hquotientDigits] at hhead
        have hzero := ih (n / 10) (by omega) hhead
        have hvalue := foldl_toDigits (n / 10)
        rw [hzero] at hvalue
        have hquotient : n / 10 = 0 := hvalue.symm
        omega

/-- The text that an integer is printed as is one of its texts. -/
theorem Number.isText_integerText
    (value : Int) (h : -2 ^ 63 ≤ value ∧ value < 2 ^ 64) :
    (Number.int value h).IsText (integerText value) := by
  obtain ⟨magnitude, hmagnitude⟩ : ∃ n : Nat, value.natAbs = n := ⟨_, rfl⟩
  have hparts : ∀ negative, Numeral.IsText ⟨negative, Nat.toDigits 10 magnitude, none, none⟩
      (Numeral.sign negative ++ Nat.toDigits 10 magnitude) := by
    intro negative
    have htext : Numeral.IsText ⟨negative, Nat.toDigits 10 magnitude, none, none⟩
        (Numeral.sign negative ++ (Nat.toDigits 10 magnitude ++ ([] ++ []))) :=
      .parts (digits_toDigits magnitude) (toDigits_head magnitude) .absent .absent
    rwa [List.append_nil, List.append_nil] at htext
  rw [integerText, hmagnitude]
  by_cases hnegative : value < 0
  · have hvalue : -(magnitude : Int) = value := by omega
    have hnonzero : value ≠ 0 := by omega
    rw [if_pos hnegative]
    refine ⟨_, hparts true, ?_⟩
    simp only [Numeral.value, Numeral.integerValue, foldl_toDigits_int, if_pos, hvalue, dif_pos h,
      hnonzero, and_false, if_false]
    rfl
  · have hvalue : (magnitude : Int) = value := by omega
    rw [if_neg hnegative]
    refine ⟨_, hparts false, ?_⟩
    simp only [Numeral.value, Numeral.integerValue, foldl_toDigits_int, hvalue, dif_pos h,
      Bool.false_eq_true, false_and, if_false]
    rfl

end PathQuery
