import PathQuery.Proofs.Number.NumeralReading
import PathQuery.Proofs.Select.Comparisons

/-!
# The order of nodes of different kinds

Scalars of two kinds are ordered by their texts, unless a string is compared with a number
as the number that it denotes.  The first character of the text of a scalar tells what the
scalar is, so these orders are one fixed ranking.  Main statement: strings come first, then
numbers, then `false`, `null` and `true`, whatever the strings and the numbers are.
-/

namespace PathQuery

/-- Texts are in the order of their first characters, where these differ. -/
theorem Text.order_cons_of_lt {a b : Char} (h : a.toNat < b.toNat) (s t : List Char) :
    order (a :: s) (b :: t) = .lt := by
  rw [order, Nat.compare_eq_lt.2 h, Ordering.lt_then]

namespace Json

/-- The place of a scalar among scalars of other kinds.  Containers are in no order and
stand behind them. -/
def rank : Json → Nat
  | string _ => 0
  | number _ => 1
  | bool false => 2
  | null => 3
  | bool true => 4
  | array _ | object _ => 5

/-- If one of two nodes is a number and the other one a string that denotes a number. -/
def ComparedAsNumbers : Json → Json → Prop
  | number _, string s => ∃ value : Number, value.IsText s.toList
  | string s, number _ => ∃ value : Number, value.IsText s.toList
  | _, _ => False

/-- The rank of the scalars whose text begins with a character. -/
def leadRank (c : Char) : Nat :=
  if c.toNat < '-'.toNat then 0
  else if c.toNat < 'f'.toNat then 1
  else if c.toNat < 'n'.toNat then 2
  else if c.toNat < 't'.toNat then 3
  else 4

theorem toNat_lt_of_leadRank_lt {a b : Char} (h : leadRank a < leadRank b) :
    a.toNat < b.toNat := by
  by_contra hle
  simp only [leadRank] at h
  split_ifs at h <;> omega

/-- Digits and the hyphen, with which numbers begin, lie between the quote and the letters. -/
theorem leadRank_number {c : Char} (hc : c.isDigit = true ∨ c = '-') : leadRank c = 1 := by
  rcases hc with hdigit | rfl
  · simp only [Char.isDigit, Bool.and_eq_true, decide_eq_true_eq] at hdigit
    have hlow : '0'.toNat ≤ c.toNat := UInt32.le_iff_toNat_le.1 hdigit.1
    have hhigh : c.toNat ≤ '9'.toNat := UInt32.le_iff_toNat_le.1 hdigit.2
    have hhyphen : '-'.toNat < '0'.toNat := by decide
    have hletter : '9'.toNat < 'f'.toNat := by decide
    rw [leadRank, if_neg (by omega), if_pos (by omega)]
  · rfl

section Scalars

variable {node left right : Json}

/-- The text of a scalar begins with a character of its rank. -/
theorem exists_lead (h : node.kind.isContainer = false) :
    ∃ c rest, node.write = c :: rest ∧ leadRank c = node.rank := by
  cases node with
  | null => exact ⟨'n', _, rfl, rfl⟩
  | bool value =>
    cases value with
    | false => exact ⟨'f', _, rfl, rfl⟩
    | true => exact ⟨'t', _, rfl, rfl⟩
  | number value =>
    obtain ⟨c, rest, htext, hc⟩ := value.text_exists_cons
    exact ⟨c, rest, htext, leadRank_number hc⟩
  | string value => exact ⟨'"', _, rfl, rfl⟩
  | array items => cases h
  | object members => cases h

/-- Scalars of one rank are of one kind. -/
theorem kind_eq_of_rank_eq (hleft : left.kind.isContainer = false)
    (hright : right.kind.isContainer = false) (h : left.rank = right.rank) :
    left.kind = right.kind := by
  have hkind : ∀ node : Json, node.kind.isContainer = false → node.kind =
      if node.rank = 0 then .string else if node.rank = 1 then .number
      else if node.rank = 3 then .null else .boolean := by
    intro node hnode
    cases node with
    | bool value => cases value <;> rfl
    | array items => cases hnode
    | object members => cases hnode
    | _ => rfl
  rw [hkind left hleft, hkind right hright, h]

theorem textOrder_of_rank_lt (hleft : left.kind.isContainer = false)
    (hright : right.kind.isContainer = false) (h : left.rank < right.rank) :
    left.textOrder right = .lt := by
  obtain ⟨a, s, hs, ha⟩ := exists_lead hleft
  obtain ⟨b, t, ht, hb⟩ := exists_lead hright
  rw [textOrder, hs, ht]
  apply Text.order_cons_of_lt
  apply toNat_lt_of_leadRank_lt
  rwa [ha, hb]

/-- The texts of scalars of two kinds are in the order of their ranks. -/
theorem textOrder_eq_compare (hleft : left.kind.isContainer = false)
    (hright : right.kind.isContainer = false) (hkind : left.kind ≠ right.kind) :
    left.textOrder right = compare left.rank right.rank := by
  rcases Nat.lt_trichotomy left.rank right.rank with hlt | heq | hgt
  · rw [textOrder_of_rank_lt hleft hright hlt, Nat.compare_eq_lt.2 hlt]
  · exact absurd (kind_eq_of_rank_eq hleft hright heq) hkind
  · rw [← textOrder_swap, textOrder_of_rank_lt hright hleft hgt, Nat.compare_eq_gt.2 hgt]
    rfl

theorem numberOf?_eq_none {s : String} (h : ¬ ∃ value : Number, value.IsText s.toList) :
    numberOf? s = none := by
  by_contra hsome
  obtain ⟨value, hvalue⟩ := Option.ne_none_iff_exists'.1 hsome
  exact h ⟨value, Number.ofText?_eq_some_iff.1 hvalue⟩

/-- Nodes of two kinds are compared by their texts, unless they are compared as numbers. -/
theorem order_eq_textOrder (hkind : left.kind ≠ right.kind)
    (hnumbers : ¬ left.ComparedAsNumbers right) : left.order right = left.textOrder right := by
  cases left <;> cases right
  case number.string a s => rw [order, numberOf?_eq_none hnumbers]
  case string.number s b => rw [order, numberOf?_eq_none hnumbers]
  case null.null => exact absurd rfl hkind
  case bool.bool => exact absurd rfl hkind
  case number.number => exact absurd rfl hkind
  case string.string => exact absurd rfl hkind
  all_goals rfl

end Scalars

end Json

/-- Scalars of different kinds are ordered by kind, a boolean by its value, unless one of them
is a number and the other one a string that denotes a number: strings are below numbers,
numbers below `false`, `false` below `null` and `null` below `true`. -/
theorem kinds_ordered_by_rank (settings : Settings) (given : Option RegexLiteral)
    {left right : Json} (hleft : left.kind.isContainer = false)
    (hright : right.kind.isContainer = false) (hkind : left.kind ≠ right.kind)
    (hnumbers : ¬ left.ComparedAsNumbers right) :
    settings.holdsBetween .less given left right = .ok (decide (left.rank < right.rank)) ∧
      settings.holdsBetween .lessOrEqual given left right =
        .ok (decide (left.rank ≤ right.rank)) ∧
      settings.holdsBetween .greater given left right =
        .ok (decide (left.rank > right.rank)) ∧
      settings.holdsBetween .greaterOrEqual given left right =
        .ok (decide (left.rank ≥ right.rank)) := by
  have horder : left.order right = compare left.rank right.rank :=
    (Json.order_eq_textOrder hkind hnumbers).trans
      (Json.textOrder_eq_compare hleft hright hkind)
  have hholds : ∀ operator, operator ≠ .matchesRegex →
      settings.holdsBetween operator given left right =
        .ok (operator.decides (left.looseEquals right) (left.strictEquals right)
          (compare left.rank right.rank)) := by
    intro operator hoperator
    rw [Settings.holdsBetween_eq hoperator, Settings.finds_scalar hleft hright hoperator, horder]
  rw [hholds _ Operator.noConfusion, hholds _ Operator.noConfusion,
    hholds _ Operator.noConfusion, hholds _ Operator.noConfusion]
  rcases Nat.lt_trichotomy left.rank right.rank with hlt | heq | hgt
  · simp [Operator.decides, Nat.compare_eq_lt.2 hlt, hlt, Nat.le_of_lt hlt]
  · simp [Operator.decides, heq]
  · simp [Operator.decides, Nat.compare_eq_gt.2 hgt, hgt, Nat.le_of_lt hgt]

/-- A blank in front of its digits keeps a string from denoting a number, and so it is below
every number. -/
theorem kinds_ordered_by_rank_blank :
    ¬ (Json.number (.int (-7) (by decide))).ComparedAsNumbers (.string " 9") ∧
      Settings.holdsBetween {} .greater none (.number (.int (-7) (by decide))) (.string " 9") =
        .ok true := by
  have hnumbers :
      ¬ (Json.number (.int (-7) (by decide))).ComparedAsNumbers (.string " 9") := by
    rintro ⟨value, hvalue⟩
    have hread : Number.ofText? " 9".toList = none := by decide
    rw [Number.ofText?_eq_some_iff.2 hvalue] at hread
    cases hread
  exact ⟨hnumbers, (kinds_ordered_by_rank {} none rfl rfl (by decide) hnumbers).2.2.1⟩

end PathQuery
