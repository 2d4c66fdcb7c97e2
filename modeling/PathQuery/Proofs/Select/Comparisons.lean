import PathQuery.Proofs.Number.ExactOrder
import PathQuery.Proofs.Number.NumeralText
import PathQuery.Select.Compare

/-!
# The laws of the comparison operators

Equality and order are two functions, each with its own rules for nodes of different kinds.
This module shows what they have in common: turned around, both say the same of the same two
nodes, and two scalars that are no booleans are in the order of equals if they are equal.
The laws of the operators follow from that, and for two numbers the exact values tell
which operators hold.
-/

namespace PathQuery

/-! ## The order of texts -/

namespace Text

theorem order_swap (s t : List Char) : (order s t).swap = order t s := by
  induction s generalizing t with
  | nil => cases t <;> rfl
  | cons a s ih =>
    cases t with
    | nil => rfl
    | cons b t => rw [order, order, Ordering.swap_then, Nat.compare_swap, ih]

theorem order_eq_iff {s t : List Char} : order s t = .eq ↔ s = t := by
  induction s generalizing t with
  | nil => cases t <;> simp [order]
  | cons a s ih =>
    cases t with
    | nil => simp [order]
    | cons b t => rw [order, Ordering.then_eq_eq, Nat.compare_eq_eq, ih, Char.toNat_inj,
        List.cons.injEq]

end Text

/-! ## The texts of scalars -/

/-- A decimal is written with a digit in front. -/
theorem DecimalLayout.write_exists_cons (layout : DecimalLayout) (d : Decimal) :
    ∃ c rest, layout.write d = c :: rest ∧ c.isDigit = true := by
  have hdigits := digits_toDigits d.digits
  obtain ⟨c, rest, heq⟩ := List.exists_cons_of_ne_nil hdigits.nonempty
  have hdigit : c.isDigit = true := hdigits.all c (by rw [heq]; exact List.mem_cons_self)
  unfold write
  simp only [heq]
  split
  · split
    · exact ⟨c, _, rfl, hdigit⟩
    · split
      · exact ⟨c, _, rfl, hdigit⟩
      · exact ⟨'0', _, rfl, rfl⟩
  · exact ⟨c, _, rfl, hdigit⟩

/-- The text of a number begins with a digit or a hyphen. -/
theorem Number.text_exists_cons (a : Number) :
    ∃ c rest, a.text = c :: rest ∧ (c.isDigit = true ∨ c = '-') := by
  cases a with
  | int i hi =>
    obtain ⟨numeral, htext, -⟩ := Number.isText_integerText i hi
    exact htext.exists_cons
  | double x =>
    obtain ⟨c, rest, heq, hdigit⟩ := Binary64.layout.write_exists_cons x.shortest
    rw [text, Binary64.text]
    cases x.negative with
    | true => exact ⟨'-', _, rfl, Or.inr rfl⟩
    | false =>
      simp only [Bool.false_eq_true, if_false]
      split
      · exact ⟨'0', _, rfl, Or.inl rfl⟩
      · exact ⟨c, rest, heq, Or.inl hdigit⟩

theorem Number.text_ne_cons (a : Number) {c : Char} (hc : c.isDigit = false ∧ c ≠ '-')
    (s : List Char) : a.text ≠ c :: s := by
  obtain ⟨first, rest, heq, hfirst⟩ := a.text_exists_cons
  intro hsame
  obtain ⟨rfl, -⟩ := List.cons.inj (heq.symm.trans hsame)
  rcases hfirst with hdigit | rfl
  · rw [hc.1] at hdigit
    cases hdigit
  · exact hc.2 rfl

namespace Json

variable {left right : Json}

/-- Scalars of two kinds have different texts, unless one is a boolean. -/
theorem write_ne (hleft : left.kind.isContainer = false) (hright : right.kind.isContainer = false)
    (hbool : left.kind ≠ .boolean ∧ right.kind ≠ .boolean) (hkind : left.kind ≠ right.kind) :
    left.write ≠ right.write := by
  have hnull : ∀ (a : Number) (s : List Char), a.text ≠ 'n' :: s :=
    fun a => a.text_ne_cons (by decide)
  have hquote : ∀ (a : Number) (s : List Char), a.text ≠ '"' :: s :=
    fun a => a.text_ne_cons (by decide)
  cases left <;> cases right <;> simp_all [kind, Kind.isContainer, write, writeString, eq_comm]

/-! ## Turning a comparison around -/

theorem looseEquals_comm (left right : Json) :
    left.looseEquals right = right.looseEquals left := by
  cases left <;> cases right
  case number.number a b => exact Number.order_beq_eq_comm a b
  all_goals simp [looseEquals, eq_comm]

theorem strictEquals_comm (left right : Json) :
    left.strictEquals right = right.strictEquals left := by
  cases left <;> cases right
  case number.number a b => exact Number.order_beq_eq_comm a b
  all_goals simp [strictEquals, eq_comm]

theorem textOrder_swap (left right : Json) :
    (left.textOrder right).swap = right.textOrder left :=
  Text.order_swap _ _

theorem order_swap (left right : Json) : (left.order right).swap = right.order left := by
  cases left <;> cases right
  case string.string s t => exact Text.order_swap _ _
  case number.number a b => exact Number.order_swap a b
  case null.null => rfl
  case bool.bool => rfl
  case number.string a s =>
    rw [order, order]
    cases numberOf? s with
    | none => exact textOrder_swap _ _
    | some b => exact Number.order_swap a b
  case string.number s a =>
    rw [order, order]
    cases numberOf? s with
    | none => exact textOrder_swap _ _
    | some b => exact Number.order_swap b a
  all_goals exact textOrder_swap _ _

/-! ## Order and equality -/

theorem textOrder_eq_iff : left.textOrder right = .eq ↔ left.write = right.write :=
  Text.order_eq_iff

/-- A number and a string are in the order of equals if the string is read as a number that
equals the number. -/
theorem order_number_string (a : Number) (s : String) :
    order (number a) (string s) = .eq ↔ looseEquals (number a) (string s) = true := by
  rw [order, looseEquals]
  cases numberOf? s with
  | none =>
    have hne : (number a).write ≠ (string s).write :=
      write_ne rfl rfl ⟨Kind.noConfusion, Kind.noConfusion⟩ Kind.noConfusion
    simp [textOrder_eq_iff, hne]
  | some b => simp

/-- Scalars that are no booleans are equal if they are in the order of equals. -/
theorem order_eq_iff (hleft : left.kind.isContainer = false)
    (hright : right.kind.isContainer = false)
    (hbool : left.kind ≠ .boolean ∧ right.kind ≠ .boolean) :
    left.order right = .eq ↔ left.looseEquals right = true := by
  have htext : left.kind ≠ right.kind → left.textOrder right ≠ .eq :=
    fun hkind => mt textOrder_eq_iff.1 (write_ne hleft hright hbool hkind)
  cases left <;> cases right
  case null.null => simp [order, looseEquals]
  case number.number a b => simp [order, looseEquals]
  case string.string s t => simp [order, looseEquals, Text.order_eq_iff, String.toList_inj]
  case number.string a s => exact order_number_string a s
  case string.number s a =>
    rw [← order_swap, Ordering.swap_eq_eq, looseEquals_comm]
    exact order_number_string a s
  all_goals simp_all [kind, Kind.isContainer, order, looseEquals]

theorem strictEquals_iff (hleft : left.kind.isContainer = false)
    (hright : right.kind.isContainer = false) :
    left.strictEquals right = true ↔ left.kind = right.kind ∧ left.looseEquals right = true := by
  cases left <;> cases right <;> simp_all [kind, Kind.isContainer, strictEquals, looseEquals]

end Json

/-! ## The laws -/

/-- What the operators have to do with each other, where `holds` tells which of them hold
between two nodes. -/
structure ComparisonLaws (holds : Operator → Json → Json → Bool) : Prop where
  notEquals : ∀ l r, holds .notEquals l r = !holds .equals l r
  equals_comm : ∀ l r, holds .equals l r = holds .equals r l
  notEquals_comm : ∀ l r, holds .notEquals l r = holds .notEquals r l
  strictEquals_comm : ∀ l r, holds .strictEquals l r = holds .strictEquals r l
  strictNotEquals_comm : ∀ l r, holds .strictNotEquals l r = holds .strictNotEquals r l
  less_mirror : ∀ l r, holds .less l r = holds .greater r l
  lessOrEqual_mirror : ∀ l r, holds .lessOrEqual l r = holds .greaterOrEqual r l
  strictEquals : ∀ l r, l.kind.isContainer = false → r.kind.isContainer = false →
    (holds .strictEquals l r = true ↔ l.kind = r.kind ∧ holds .equals l r = true)
  strictNotEquals : ∀ l r, l.kind.isContainer = false → r.kind.isContainer = false →
    holds .strictNotEquals l r = !holds .strictEquals l r
  lessOrEqual : ∀ l r, l.kind.isContainer = false → r.kind.isContainer = false →
    holds .lessOrEqual l r = !holds .greater l r
  greaterOrEqual : ∀ l r, l.kind.isContainer = false → r.kind.isContainer = false →
    holds .greaterOrEqual l r = !holds .less l r
  /-- Exactly one of the three holds. -/
  trichotomy : ∀ l r, l.kind.isContainer = false → r.kind.isContainer = false →
    l.kind ≠ .boolean → r.kind ≠ .boolean →
      (holds .less l r).toNat + (holds .equals l r).toNat + (holds .greater l r).toNat = 1

namespace Operator

/-- The operators that hold between two scalars, told from their equality, their strict
equality and their order; no regular expression is matched. -/
def decides (loose strict : Bool) (order : Ordering) : Operator → Bool
  | .equals => loose
  | .notEquals => !loose
  | .strictEquals => strict
  | .strictNotEquals => !strict
  | .less => order == .lt
  | .lessOrEqual => order != .gt
  | .greater => order == .gt
  | .greaterOrEqual => order != .lt
  | .matchesRegex => false
  | .present => true

/-- The operator that says the same of two nodes in the other order. -/
def mirror : Operator → Operator
  | .less => .greater
  | .lessOrEqual => .greaterOrEqual
  | .greater => .less
  | .greaterOrEqual => .lessOrEqual
  | operator => operator

theorem mirror_decides (operator : Operator) (loose strict : Bool) (order : Ordering) :
    operator.mirror.decides loose strict order.swap = operator.decides loose strict order := by
  cases operator <;> cases order <;> rfl

end Operator

namespace Settings

/-- If an operator is found to hold between two nodes. -/
def finds (settings : Settings) (given : Option RegexLiteral) (operator : Operator)
    (left right : Json) : Bool :=
  (settings.holdsBetween operator given left right).toOption.getD false

variable {settings : Settings} {given : Option RegexLiteral} {operator : Operator}
  {left right : Json}

/-- Only the match of a regular expression can fail. -/
theorem holdsBetween_eq (h : operator ≠ .matchesRegex) :
    settings.holdsBetween operator given left right =
      .ok (settings.finds given operator left right) := by
  unfold finds holdsBetween
  split
  · rfl
  · cases operator <;> first | rfl | exact absurd rfl h

/-- What is found of two nodes: containers only differ, and two scalars are told apart by
their equality and their order. -/
theorem finds_eq (h : operator ≠ .matchesRegex) :
    settings.finds given operator left right =
      if left.kind.isContainer || right.kind.isContainer then
        operator == .present || operator == .notEquals
      else
        operator.decides (left.looseEquals right) (left.strictEquals right)
          (left.order right) := by
  unfold finds holdsBetween
  split
  · rfl
  · cases operator <;> first | rfl | exact absurd rfl h

theorem finds_scalar (hleft : left.kind.isContainer = false)
    (hright : right.kind.isContainer = false) (h : operator ≠ .matchesRegex) :
    settings.finds given operator left right =
      operator.decides (left.looseEquals right) (left.strictEquals right)
        (left.order right) := by
  rw [finds_eq h, hleft, hright]
  rfl

/-- A comparison may be turned around. -/
theorem finds_mirror (h : operator ≠ .matchesRegex) :
    settings.finds given operator left right =
      settings.finds given operator.mirror right left := by
  have hmirror : operator.mirror ≠ .matchesRegex := by
    cases operator <;> first | exact Operator.noConfusion | exact absurd rfl h
  rw [finds_eq h, finds_eq hmirror, Bool.or_comm]
  split
  · cases operator <;> rfl
  · rw [left.looseEquals_comm, left.strictEquals_comm, ← left.order_swap,
      Operator.mirror_decides]

end Settings

/-- The operators obey the same laws under all settings. -/
theorem comparisonLaws (settings : Settings) (given : Option RegexLiteral) :
    ComparisonLaws (settings.finds given) where
  notEquals l r := by
    rw [Settings.finds_eq Operator.noConfusion, Settings.finds_eq Operator.noConfusion]
    split
    · rfl
    · rfl
  equals_comm _ _ := Settings.finds_mirror Operator.noConfusion
  notEquals_comm _ _ := Settings.finds_mirror Operator.noConfusion
  strictEquals_comm _ _ := Settings.finds_mirror Operator.noConfusion
  strictNotEquals_comm _ _ := Settings.finds_mirror Operator.noConfusion
  less_mirror _ _ := Settings.finds_mirror Operator.noConfusion
  lessOrEqual_mirror _ _ := Settings.finds_mirror Operator.noConfusion
  strictEquals l r hl hr := by
    rw [Settings.finds_scalar hl hr Operator.noConfusion,
      Settings.finds_scalar hl hr Operator.noConfusion]
    exact Json.strictEquals_iff hl hr
  strictNotEquals l r hl hr := by
    rw [Settings.finds_scalar hl hr Operator.noConfusion,
      Settings.finds_scalar hl hr Operator.noConfusion]
    rfl
  lessOrEqual l r hl hr := by
    rw [Settings.finds_scalar hl hr Operator.noConfusion,
      Settings.finds_scalar hl hr Operator.noConfusion]
    rfl
  greaterOrEqual l r hl hr := by
    rw [Settings.finds_scalar hl hr Operator.noConfusion,
      Settings.finds_scalar hl hr Operator.noConfusion]
    rfl
  trichotomy l r hl hr hlb hrb := by
    have hequal := Json.order_eq_iff hl hr ⟨hlb, hrb⟩
    rw [Settings.finds_scalar hl hr Operator.noConfusion,
      Settings.finds_scalar hl hr Operator.noConfusion,
      Settings.finds_scalar hl hr Operator.noConfusion]
    cases hloose : l.looseEquals r <;> cases horder : l.order r <;>
      simp_all [Operator.decides]

/-- Under any settings, every comparison has a result, and the results obey the laws of
equality and order. -/
theorem comparisons_coherent (settings : Settings) (given : Option RegexLiteral) :
    (∀ operator left right, operator ≠ .matchesRegex →
      settings.holdsBetween operator given left right =
        .ok (settings.finds given operator left right)) ∧
      ComparisonLaws (settings.finds given) :=
  ⟨fun _ _ _ h => Settings.holdsBetween_eq h, comparisonLaws settings given⟩

/-- The string `"9"` is below the number `10`, since the number is above the string. -/
theorem comparisons_coherent_mixed :
    Settings.holdsBetween {} .less none (.string "9") (.number (.int 10 (by decide))) =
      .ok true := by
  obtain ⟨hresult, hlaws⟩ := comparisons_coherent {} none
  rw [hresult _ _ _ (by decide), hlaws.less_mirror]
  decide +kernel

/-! ## Numbers -/

/-- Two numbers are compared by their exact values, unless they are merged: then they are
equal in spite of their values, one of them is an integer beyond `2 ^ 53` and the other one
a double.  The order of the numbers decides every operator, and equality is transitive
wherever no double stands between two integers. -/
theorem numbers_compare_by_value (a b : Number) :
    (¬ a.Merged b → a.order b = cmp a.exact b.exact) ∧
      (a.Merged b → a.order b = .eq ∧ a.exact ≠ b.exact ∧
        ∃ i hi, (a = .int i hi ∨ b = .int i hi) ∧ 2 ^ 53 < i.natAbs) ∧
      (∀ (settings : Settings) operator given,
        settings.holdsBetween operator given (.number a) (.number b) =
          .ok (operator.decides (a.order b == .eq) (a.order b == .eq) (a.order b))) ∧
      ∀ c, a.order b = .eq → b.order c = .eq →
        a.order c = .eq ∨ ∃ i hi x j hj, a = .int i hi ∧ b = .double x ∧ c = .int j hj := by
  refine ⟨Number.order_of_not_merged, ?_, ?_, fun c => Number.order_eq_trans⟩
  · intro hmerged
    obtain ⟨horder, hne⟩ := Number.order_eq_of_merged hmerged
    exact ⟨horder, hne, hmerged.exists_int⟩
  · intro settings operator given
    cases operator <;> rfl

/-- The double `2 ^ 53` is merged with the integer `2 ^ 53 + 1`, but not with one. -/
theorem numbers_compare_by_value_two_pow :
    Number.order (.int 9007199254740993 (by decide))
        (.double ⟨false, 2 ^ 52, 1075, by decide⟩) = .eq ∧
      Number.order (.int 1 (by decide)) (.double ⟨false, 2 ^ 52, 1075, by decide⟩) = .lt := by
  constructor
  · have hmerged : Number.Merged (.int 9007199254740993 (by decide))
        (.double ⟨false, 2 ^ 52, 1075, by decide⟩) :=
      ⟨(Number.toDouble_side (by decide) _).2.2.2 (by decide +kernel), by decide +kernel⟩
    exact ((numbers_compare_by_value _ _).2.1 hmerged).1
  · have hapart : ¬ Number.Merged (.int 1 (by decide))
        (.double ⟨false, 2 ^ 52, 1075, by decide⟩) := by
      rintro ⟨hnear, -⟩
      exact absurd (hnear.units_eq (by decide)) (by decide +kernel)
    rw [(numbers_compare_by_value _ _).1 hapart, cmp_eq_lt_iff, Number.exact_lt]
    decide +kernel

/-- The integer `2 ^ 53 + 1` equals the double `2 ^ 53`, which equals the integer `2 ^ 53`,
and the two integers differ. -/
theorem not_numbers_compare_by_value :
    (Number.double ⟨false, 2 ^ 52, 1075, by decide⟩).exact <
        (Number.int 9007199254740993 (by decide)).exact ∧
      Json.looseEquals (.number (.int 9007199254740993 (by decide)))
        (.number (.double ⟨false, 2 ^ 52, 1075, by decide⟩)) = true ∧
      Json.looseEquals (.number (.double ⟨false, 2 ^ 52, 1075, by decide⟩))
        (.number (.int 9007199254740992 (by decide))) = true ∧
      Json.looseEquals (.number (.int 9007199254740993 (by decide)))
        (.number (.int 9007199254740992 (by decide))) = false := by
  refine ⟨Number.exact_lt.2 ?_, ?_, ?_, ?_⟩
  · decide +kernel
  · decide +kernel
  · decide +kernel
  · decide +kernel

end PathQuery
