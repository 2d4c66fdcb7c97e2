import PathQuery.Path.Same
import PathQuery.Proofs.Select.KindOrder
import PathQuery.Select.Selection

/-!
# What the same steps select

Steps that are the same may hold constants that are written differently: a zero with either
sign, or an object with its members in another order.  No comparison tells these apart, and a
regular expression is fixed by its text, so steps that are the same select the same nodes.
-/

namespace PathQuery

/-! ## Constants that are the same -/

namespace Json

variable {a b : Json}

/-- Constants that are the same are equal, or doubles of one value, or containers. -/
theorem same_cases (h : a.same b = true) :
    a = b ∨ (∃ x y : Binary64, a = number (.double x) ∧ b = number (.double y) ∧
      x.units = y.units) ∨ a.kind.isContainer = true ∧ b.kind.isContainer = true := by
  cases a <;> cases b
  case number.number m n =>
    cases m with
    | int i hi =>
        cases n with
        | int j hj =>
            obtain rfl : i = j := eq_of_beq h
            exact .inl rfl
        | double y => cases h
    | double x =>
        cases n with
        | int j hj => cases h
        | double y => exact .inr (.inl ⟨x, y, rfl, rfl, eq_of_beq h⟩)
  case null.null => exact .inl rfl
  case bool.bool => exact .inl (congrArg bool (eq_of_beq h))
  case string.string => exact .inl (congrArg string (eq_of_beq h))
  case array.array => exact .inr (.inr ⟨rfl, rfl⟩)
  case object.object => exact .inr (.inr ⟨rfl, rfl⟩)
  all_goals cases h

section Doubles

variable {x y : Binary64}

theorem Number.order_double (h : x.units = y.units) (c : Number) :
    (Number.double x).order c = (Number.double y).order c := by
  have hcompare : ∀ z : Binary64, x.compare z = y.compare z := by
    intro z
    rw [Binary64.compare, Binary64.compare, h]
  exact hcompare c.toDouble

/-- The text of a number stands in one order to those of all scalars that are no numbers. -/
theorem textOrder_number (m n : Number) {node : Json} (hnode : node.kind.isContainer = false)
    (hkind : node.kind ≠ .number) : (number m).textOrder node = (number n).textOrder node := by
  have horder : ∀ m : Number, (number m).textOrder node = compare 1 node.rank :=
    fun m => textOrder_eq_compare rfl hnode hkind.symm
  rw [horder, horder]

theorem order_double (h : x.units = y.units) {node : Json}
    (hnode : node.kind.isContainer = false) :
    (number (.double x)).order node = (number (.double y)).order node := by
  cases node with
  | number c => exact Number.order_double h c
  | string s =>
      rw [order, order]
      cases numberOf? s with
      | none => exact textOrder_number _ _ rfl (by rintro ⟨⟩)
      | some c => exact Number.order_double h c
  | null => exact textOrder_number _ _ rfl (by rintro ⟨⟩)
  | bool value => exact textOrder_number _ _ rfl (by rintro ⟨⟩)
  | array items => cases hnode
  | object members => cases hnode

theorem looseEquals_double (h : x.units = y.units) (node : Json) :
    (number (.double x)).looseEquals node = (number (.double y)).looseEquals node := by
  cases node with
  | number c => simp only [looseEquals, Number.order_double h]
  | string s => simp only [looseEquals, Number.order_double h]
  | _ => rfl

theorem strictEquals_double (h : x.units = y.units) (node : Json) :
    (number (.double x)).strictEquals node = (number (.double y)).strictEquals node := by
  cases node with
  | number c => simp only [strictEquals, Number.order_double h]
  | _ => rfl

end Doubles

end Json

namespace Settings

variable (settings : Settings) (operator : Operator) (given : Option RegexLiteral)
  {left left' right right' : Json}

theorem finds_same_left (hoperator : operator ≠ .matchesRegex) (h : left.same left' = true) :
    settings.finds given operator left right = settings.finds given operator left' right := by
  rw [finds_eq hoperator, finds_eq hoperator]
  rcases Json.same_cases h with rfl | ⟨x, y, rfl, rfl, hunits⟩ | ⟨hleft, hleft'⟩
  · rfl
  · cases hright : right.kind.isContainer with
    | true => rfl
    | false =>
        rw [Json.order_double hunits hright, Json.looseEquals_double hunits,
          Json.strictEquals_double hunits]
        rfl
  · rw [hleft, hleft']
    rfl

/-- A comparison does not tell constants that are the same apart; only a string is matched. -/
theorem holdsBetween_same_left (h : left.same left' = true) :
    settings.holdsBetween operator given left right =
      settings.holdsBetween operator given left' right := by
  by_cases hoperator : operator = .matchesRegex
  · subst hoperator
    rcases Json.same_cases h with rfl | ⟨x, y, rfl, rfl, -⟩ | ⟨hleft, hleft'⟩
    · rfl
    · rfl
    · rw [holdsBetween, holdsBetween, hleft, hleft']
      rfl
  · rw [holdsBetween_eq hoperator, holdsBetween_eq hoperator,
      finds_same_left settings operator given hoperator h]

theorem holdsBetween_same_right (h : right.same right' = true) :
    settings.holdsBetween operator given left right =
      settings.holdsBetween operator given left right' := by
  by_cases hoperator : operator = .matchesRegex
  · subst hoperator
    rcases Json.same_cases h with rfl | ⟨x, y, rfl, rfl, -⟩ | ⟨hright, hright'⟩
    · rfl
    · cases left <;> rfl
    · rw [holdsBetween, holdsBetween, hright, hright', Bool.or_true, if_pos rfl, if_pos rfl]
  · have hmirror : operator.mirror ≠ .matchesRegex := by
      cases operator <;> first | exact Operator.noConfusion | exact absurd rfl hoperator
    rw [holdsBetween_eq hoperator, holdsBetween_eq hoperator, finds_mirror hoperator,
      finds_mirror hoperator, finds_same_left settings operator.mirror given hmirror h]

end Settings

/-! ## Evaluation -/

/-- What two operands that are the same come to: the same outcome, or two constants that are
the same. -/
inductive AlikeFirsts : Except SelectError (Option Json) → Except SelectError (Option Json) → Prop
  | refl (outcome : Except SelectError (Option Json)) : AlikeFirsts outcome outcome
  | constants {a b : Json} : a.same b = true → AlikeFirsts (.ok (some a)) (.ok (some b))

theorem regex?_of_same {right right' : Option Operand} (h : sameRight right right' = true) :
    Operand.regex? right = Operand.regex? right' := by
  cases right with
  | none =>
      cases right' with
      | none => rfl
      | some operand' => simp [sameRight] at h
  | some operand =>
      cases right' with
      | none => simp [sameRight] at h
      | some operand' =>
          rw [sameRight] at h
          cases operand <;> cases operand' <;> simp [Operand.same] at h
          case regex.regex literal literal' => rw [RegexLiteral.eq_of_text h]
          all_goals rfl

namespace Settings

variable (settings : Settings) (operator : Operator) (given : Option RegexLiteral)

/-- If a comparison holds of the node of a left operand and what a right one comes to. -/
def holdsOf (left : Json) (second : Except SelectError (Option Json)) :
    Except SelectError Bool := do
  match ← second with
  | none => return false
  | some right => settings.holdsBetween operator given left right

theorem holdsOf_alike {second second' : Except SelectError (Option Json)}
    (h : AlikeFirsts second second') (left : Json) :
    settings.holdsOf operator given left second =
      settings.holdsOf operator given left second' := by
  cases h with
  | refl => rfl
  | constants hsame => exact settings.holdsBetween_same_right operator given hsame

theorem holdsOf_same_left {left left' : Json} (h : left.same left' = true)
    (second : Except SelectError (Option Json)) :
    settings.holdsOf operator given left second =
      settings.holdsOf operator given left' second := by
  rw [holdsOf, holdsOf]
  congr 1
  funext right?
  cases right? with
  | none => rfl
  | some right => exact settings.holdsBetween_same_left operator given h

end Settings

section Evaluation

variable (settings : Settings) (root : Json)

mutual

theorem Step.outputs_same (step step' : Step) (h : step.same step' = true) (node : Json) :
    step.outputs settings root node = step'.outputs settings root node := by
  cases step <;> cases step'
  case filter.filter condition condition' =>
    rw [Step.same] at h
    rw [Step.outputs, Step.outputs]
    congr 1
    funext child
    exact Condition.holds_same condition condition' h child
  case descendFilter.descendFilter condition condition' =>
    rw [Step.same] at h
    rw [Step.outputs, Step.outputs]
    congr 1
    funext child
    exact Condition.holds_same condition condition' h child
  case descendAny.descendAny set set' =>
    obtain ⟨names⟩ := set
    obtain ⟨names'⟩ := set'
    rw [Step.same, beq_iff_eq] at h
    obtain rfl : names = names' := h
    rfl
  case root.root => rfl
  all_goals simp only [Step.same, Bool.false_eq_true, Bool.and_eq_true, beq_iff_eq] at h
  all_goals simp only [h]

theorem Condition.holds_same (condition condition' : Condition)
    (h : condition.same condition' = true) (node : Json) :
    condition.holds settings root node = condition'.holds settings root node := by
  cases condition with
  | composite connective conditions =>
      cases condition' with
      | composite connective' conditions' =>
          rw [Condition.same, Bool.and_eq_true, beq_iff_eq] at h
          obtain ⟨rfl, hconditions⟩ := h
          cases connective with
          | and =>
              rw [Condition.holds, Condition.holds]
              exact allHold_same conditions conditions' hconditions node
          | or =>
              rw [Condition.holds, Condition.holds]
              exact anyHolds_same conditions conditions' hconditions node
      | comparison operator' left' right' => simp [Condition.same] at h
  | comparison operator left right =>
      cases condition' with
      | composite connective' conditions' => simp [Condition.same] at h
      | comparison operator' left' right' =>
          rw [Condition.same, Bool.and_eq_true, Bool.and_eq_true, beq_iff_eq] at h
          obtain ⟨⟨rfl, hleft⟩, hright⟩ := h
          rw [Condition.holds, Condition.holds, regex?_of_same hright]
          have hlefts := Operand.first_same left left' hleft node
          have hrights := firstRight_same right right' hright node
          generalize left.first settings root node = first at hlefts
          generalize left'.first settings root node = first' at hlefts
          generalize firstRight settings root right node = second at hrights
          generalize firstRight settings root right' node = second' at hrights
          cases hlefts with
          | refl =>
              congr 1
              funext leftNode?
              cases leftNode? with
              | none => rfl
              | some leftNode =>
                  simp only
                  split
                  · rfl
                  · exact settings.holdsOf_alike operator _ hrights leftNode
          | constants hsame =>
              simp only [bind, Except.bind]
              split
              · rfl
              · exact (settings.holdsOf_alike operator _ hrights _).trans
                  (settings.holdsOf_same_left operator _ hsame second')

theorem allHold_same (conditions conditions' : List Condition)
    (h : sameConditions conditions conditions' = true) (node : Json) :
    allHold settings root conditions node = allHold settings root conditions' node := by
  cases conditions with
  | nil =>
      cases conditions' with
      | nil => rfl
      | cons condition' rest' => simp [sameConditions] at h
  | cons condition rest =>
      cases conditions' with
      | nil => simp [sameConditions] at h
      | cons condition' rest' =>
          rw [sameConditions, Bool.and_eq_true] at h
          rw [allHold, allHold, Condition.holds_same condition condition' h.1 node,
            allHold_same rest rest' h.2 node]

theorem anyHolds_same (conditions conditions' : List Condition)
    (h : sameConditions conditions conditions' = true) (node : Json) :
    anyHolds settings root conditions node = anyHolds settings root conditions' node := by
  cases conditions with
  | nil =>
      cases conditions' with
      | nil => rfl
      | cons condition' rest' => simp [sameConditions] at h
  | cons condition rest =>
      cases conditions' with
      | nil => simp [sameConditions] at h
      | cons condition' rest' =>
          rw [sameConditions, Bool.and_eq_true] at h
          rw [anyHolds, anyHolds, Condition.holds_same condition condition' h.1 node,
            anyHolds_same rest rest' h.2 node]

theorem Operand.first_same (operand operand' : Operand) (h : operand.same operand' = true)
    (node : Json) :
    AlikeFirsts (operand.first settings root node) (operand'.first settings root node) := by
  cases operand <;> cases operand'
  case path.path steps steps' =>
    rw [Operand.same] at h
    rw [Operand.first, Operand.first, applySteps_same steps steps' h]
    exact .refl _
  case literal.literal value value' =>
    rw [Operand.same] at h
    rw [Operand.first, Operand.first]
    exact .constants h
  case regex.regex literal literal' =>
    rw [Operand.same, beq_iff_eq] at h
    rw [RegexLiteral.eq_of_text h]
    exact .refl _
  all_goals simp [Operand.same] at h

theorem firstRight_same (right right' : Option Operand) (h : sameRight right right' = true)
    (node : Json) :
    AlikeFirsts (firstRight settings root right node) (firstRight settings root right' node) := by
  cases right with
  | none =>
      cases right' with
      | none => exact .refl _
      | some operand' => simp [sameRight] at h
  | some operand =>
      cases right' with
      | none => simp [sameRight] at h
      | some operand' =>
          rw [sameRight] at h
          rw [firstRight, firstRight]
          exact Operand.first_same operand operand' h node

theorem applySteps_same (steps steps' : List Step) (h : sameSteps steps steps' = true)
    (items : LazyList Item) :
    applySteps settings root steps items = applySteps settings root steps' items := by
  cases steps with
  | nil =>
      cases steps' with
      | nil => rfl
      | cons step' rest' => simp [sameSteps] at h
  | cons step rest =>
      cases steps' with
      | nil => simp [sameSteps] at h
      | cons step' rest' =>
          rw [sameSteps, Bool.and_eq_true] at h
          rw [applySteps, applySteps, applySteps_same rest rest' h.2]
          congr 3
          funext node
          exact Step.outputs_same step step' h.1 node

end

end Evaluation

end PathQuery
