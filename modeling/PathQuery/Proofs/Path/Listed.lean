import PathQuery.Path.Listing
import PathQuery.Path.Same

/-!
# Paths and their listings

Every part of a path is listed under a name of its own, with all that it is made of, and what
is absent is null.  So the listings of two paths are the same constant if and only if the paths
are the same, and they are equal only if the paths are.
-/

namespace PathQuery

namespace Json

section Constants

variable {a b c a' b' c' : Json}

theorem tagged_same (name name' : String) (a a' : Json) :
    (tagged name a).same (tagged name' a') = (name == name' && a.same a') := by
  by_cases h : name = name'
  · subst h
    simp [tagged, same, sameMembers, member?]
  · have hne : (name == name') = false := beq_false_of_ne h
    simp [tagged, same, sameMembers, member?, List.lookup_cons, hne]

/-- An object is no string. -/
theorem tagged_same_string (name : String) (a : Json) (s : String) :
    (tagged name a).same (string s) = false ∧ (string s).same (tagged name a) = false :=
  ⟨rfl, rfl⟩

/-- An object is not null. -/
theorem tagged_same_null (name : String) (a : Json) :
    (tagged name a).same null = false ∧ null.same (tagged name a) = false :=
  ⟨rfl, rfl⟩

theorem ofIndex_same (i j : Int64) : (ofIndex i).same (ofIndex j) = (i == j) := by
  rw [Bool.eq_iff_iff]
  simp [ofIndex, same, Number.same, Int64.toInt_inj]

theorem ofOption_same {α : Type} [BEq α] {encode : α → Json}
    (hencode : ∀ a b, (encode a).same (encode b) = (a == b))
    (hnull : ∀ a, (encode a).same null = false ∧ null.same (encode a) = false)
    (a b : Option α) : (ofOption encode a).same (ofOption encode b) = (a == b) := by
  cases a with
  | none =>
      cases b with
      | none => rfl
      | some b => exact (hnull b).2
  | some a =>
      cases b with
      | none => exact (hnull a).1
      | some b => exact hencode a b

theorem optionalName_same (a b : Option String) :
    (ofOption string a).same (ofOption string b) = (a == b) :=
  ofOption_same (fun _ _ => rfl) (fun _ => ⟨rfl, rfl⟩) a b

theorem optionalIndex_same (a b : Option Int64) :
    (ofOption ofIndex a).same (ofOption ofIndex b) = (a == b) :=
  ofOption_same ofIndex_same (fun _ => ⟨rfl, rfl⟩) a b

/-- Constants listed one by one. -/
theorem sameItems_map {α : Type} [BEq α] {encode : α → Json}
    (hencode : ∀ a b, (encode a).same (encode b) = (a == b)) (s t : List α) :
    sameItems (s.map encode) (t.map encode) = (s == t) := by
  induction s generalizing t with
  | nil =>
      cases t with
      | nil => rfl
      | cons b t => rfl
  | cons a s ih =>
      cases t with
      | nil => rfl
      | cons b t => rw [List.map_cons, List.map_cons, sameItems, hencode, ih, List.cons_beq_cons]

theorem ofNames_same (s t : List String) : (ofNames s).same (ofNames t) = (s == t) :=
  sameItems_map (fun _ _ => rfl) s t

theorem indices_same (s t : List Int64) :
    (array (s.map ofIndex)).same (array (t.map ofIndex)) = (s == t) :=
  sameItems_map ofIndex_same s t

theorem tagged_inj {name name' : String} :
    tagged name a = tagged name' a' ↔ name = name' ∧ a = a' := by
  simp [tagged]

theorem tagged_ne_string (name : String) (a : Json) (s : String) : tagged name a ≠ string s :=
  nofun

theorem tagged_ne_null (name : String) (a : Json) : tagged name a ≠ null :=
  nofun

theorem ofIndex_inj {i j : Int64} : ofIndex i = ofIndex j ↔ i = j := by
  simp [ofIndex, Int64.toInt_inj]

theorem ofOption_inj {α : Type} {encode : α → Json} (hencode : ∀ {a b}, encode a = encode b ↔ a = b)
    (hnull : ∀ a, encode a ≠ null) {a b : Option α} :
    ofOption encode a = ofOption encode b ↔ a = b := by
  cases a with
  | none =>
      cases b with
      | none => simp
      | some b => simp [ofOption, (hnull b).symm]
  | some a =>
      cases b with
      | none => simp [ofOption, hnull a]
      | some b => simp [ofOption, hencode]

theorem optionalName_inj {a b : Option String} :
    ofOption string a = ofOption string b ↔ a = b :=
  ofOption_inj (by simp) (by simp)

theorem optionalIndex_inj {a b : Option Int64} :
    ofOption ofIndex a = ofOption ofIndex b ↔ a = b :=
  ofOption_inj ofIndex_inj (by simp [ofIndex])

theorem ofNames_inj {s t : List String} : ofNames s = ofNames t ↔ s = t := by
  rw [ofNames, ofNames, array.injEq]
  exact List.map_inj_right fun _ _ => string.inj

theorem indices_inj {s t : List Int64} : s.map ofIndex = t.map ofIndex ↔ s = t :=
  List.map_inj_right fun _ _ => ofIndex_inj.1

end Constants

end Json

/-! ## The same constant -/

mutual

/-- Steps are the same if and only if their listings are, as parts of different kinds are listed
under different names. -/
theorem Step.toJson_same (step step' : Step) :
    step.toJson.same step'.toJson = step.same step' := by
  cases step <;> cases step'
  case filter.filter condition condition' =>
    simp [Step.toJson, Step.same, Json.tagged_same, Condition.toJson_same condition condition']
  case descendFilter.descendFilter condition condition' =>
    simp [Step.toJson, Step.same, Json.tagged_same, Condition.toJson_same condition condition']
  case elements.elements indices indices' =>
    simp only [Step.toJson, Step.same, Json.tagged_same, Json.indices_same, beq_self_eq_true,
      Bool.true_and]
  case slice.slice start stop stride start' stop' stride' =>
    simp [Step.toJson, Step.same, Json.tagged_same, Json.same, Json.sameMembers, Json.member?,
      List.lookup_cons, Json.optionalIndex_same, Bool.and_assoc]
  case root.root => simp [Step.toJson, Step.same, Json.same]
  all_goals simp [Step.toJson, Step.same, Json.tagged_same, Json.optionalName_same,
    Json.optionalIndex_same, Json.ofNames_same, Json.tagged_same_string]

theorem Condition.toJson_same (condition condition' : Condition) :
    condition.toJson.same condition'.toJson = condition.same condition' := by
  cases condition with
  | composite connective conditions =>
      cases condition' with
      | composite connective' conditions' =>
          have hname : (connective.name == connective'.name) = (connective == connective') := by
            cases connective <;> cases connective' <;> rfl
          simp [Condition.toJson, Condition.same, Json.tagged_same, Json.same, Json.sameMembers,
            Json.member?, List.lookup_cons, hname, listConditions_same conditions conditions']
      | comparison operator' left' right' =>
          simp [Condition.toJson, Condition.same, Json.tagged_same]
  | comparison operator left right =>
      cases condition' with
      | composite connective' conditions' =>
          simp [Condition.toJson, Condition.same, Json.tagged_same]
      | comparison operator' left' right' =>
          have hname : (operator.name == operator'.name) = (operator == operator') := by
            cases operator <;> cases operator' <;> rfl
          simp [Condition.toJson, Condition.same, Json.tagged_same, Json.same, Json.sameMembers,
            Json.member?, List.lookup_cons, hname, Operand.toJson_same left left',
            listRight_same right right', Bool.and_assoc]

theorem Operand.toJson_same (operand operand' : Operand) :
    operand.toJson.same operand'.toJson = operand.same operand' := by
  cases operand <;> cases operand'
  case path.path steps steps' =>
    simp [Operand.toJson, Operand.same, Json.tagged_same, Json.same, listSteps_same steps steps']
  all_goals simp [Operand.toJson, Operand.same, Json.tagged_same, Json.same]

theorem listRight_same (right right' : Option Operand) :
    (listRight right).same (listRight right') = sameRight right right' := by
  cases right with
  | none =>
      cases right' with
      | none => simp [listRight, sameRight, Json.same]
      | some operand' =>
          cases operand' <;> simp [listRight, sameRight, Operand.toJson, Json.tagged_same_null]
  | some operand =>
      cases right' with
      | none =>
          cases operand <;> simp [listRight, sameRight, Operand.toJson, Json.tagged_same_null]
      | some operand' =>
          rw [listRight, listRight, sameRight, Operand.toJson_same operand operand']

theorem listSteps_same (steps steps' : List Step) :
    Json.sameItems (listSteps steps) (listSteps steps') = sameSteps steps steps' := by
  cases steps with
  | nil => cases steps' <;> simp [listSteps, sameSteps, Json.sameItems]
  | cons step rest =>
      cases steps' with
      | nil => simp [listSteps, sameSteps, Json.sameItems]
      | cons step' rest' =>
          rw [listSteps, listSteps, Json.sameItems, sameSteps, Step.toJson_same step step',
            listSteps_same rest rest']

theorem listConditions_same (conditions conditions' : List Condition) :
    Json.sameItems (listConditions conditions) (listConditions conditions') =
      sameConditions conditions conditions' := by
  cases conditions with
  | nil => cases conditions' <;> simp [listConditions, sameConditions, Json.sameItems]
  | cons condition rest =>
      cases conditions' with
      | nil => simp [listConditions, sameConditions, Json.sameItems]
      | cons condition' rest' =>
          rw [listConditions, listConditions, Json.sameItems, sameConditions,
            Condition.toJson_same condition condition', listConditions_same rest rest']

end

/-! ## Equal listings -/

mutual

/-- The listing of a step belongs to no other one.  Equality is finer than sameness: a zero keeps
its sign. -/
theorem Step.toJson_injective (step step' : Step) (h : step.toJson = step'.toJson) :
    step = step' := by
  cases step <;> cases step'
  case filter.filter condition condition' =>
    simp only [Step.toJson, Json.tagged_inj, true_and] at h
    rw [Condition.toJson_injective condition condition' h]
  case descendFilter.descendFilter condition condition' =>
    simp only [Step.toJson, Json.tagged_inj, true_and] at h
    rw [Condition.toJson_injective condition condition' h]
  case descendAny.descendAny set set' =>
    simp only [Step.toJson, Json.tagged_inj, Json.ofNames_inj, true_and] at h
    obtain ⟨names⟩ := set
    obtain ⟨names'⟩ := set'
    obtain rfl : names = names' := h
    rfl
  case root.root => rfl
  all_goals simp [Step.toJson, Json.tagged_inj, Json.optionalName_inj, Json.optionalIndex_inj,
    Json.ofNames_inj, Json.indices_inj, Json.tagged_ne_string,
    (Json.tagged_ne_string _ _ _).symm] at h
  all_goals simp [h]

theorem Condition.toJson_injective (condition condition' : Condition)
    (h : condition.toJson = condition'.toJson) : condition = condition' := by
  cases condition with
  | composite connective conditions =>
      cases condition' with
      | composite connective' conditions' =>
          simp only [Condition.toJson, Json.tagged_inj, true_and, Json.object.injEq,
            List.cons.injEq, Prod.mk.injEq, Json.string.injEq, Json.array.injEq, and_true] at h
          obtain ⟨hname, hconditions⟩ := h
          have hconnective : connective = connective' := by
            cases connective <;> cases connective' <;> simp_all [Connective.name]
          rw [hconnective, listConditions_injective conditions conditions' hconditions]
      | comparison operator' left' right' => simp [Condition.toJson, Json.tagged_inj] at h
  | comparison operator left right =>
      cases condition' with
      | composite connective' conditions' => simp [Condition.toJson, Json.tagged_inj] at h
      | comparison operator' left' right' =>
          simp only [Condition.toJson, Json.tagged_inj, true_and, Json.object.injEq,
            List.cons.injEq, Prod.mk.injEq, Json.string.injEq, and_true] at h
          obtain ⟨hname, hleft, hright⟩ := h
          have hoperator : operator = operator' := by
            cases operator <;> cases operator' <;> simp_all [Operator.name]
          rw [hoperator, Operand.toJson_injective left left' hleft,
            listRight_injective right right' hright]

theorem Operand.toJson_injective (operand operand' : Operand)
    (h : operand.toJson = operand'.toJson) : operand = operand' := by
  cases operand <;> cases operand'
  case path.path steps steps' =>
    simp only [Operand.toJson, Json.tagged_inj, true_and, Json.array.injEq] at h
    rw [listSteps_injective steps steps' h]
  case literal.literal value value' =>
    simp only [Operand.toJson, Json.tagged_inj, true_and] at h
    rw [h]
  case regex.regex literal literal' =>
    simp only [Operand.toJson, Json.tagged_inj, true_and, Json.string.injEq] at h
    rw [RegexLiteral.eq_of_text h]
  all_goals simp [Operand.toJson, Json.tagged_inj] at h

theorem listRight_injective (right right' : Option Operand)
    (h : listRight right = listRight right') : right = right' := by
  cases right with
  | none =>
      cases right' with
      | none => rfl
      | some operand' =>
          cases operand' <;> exact absurd h.symm (Json.tagged_ne_null _ _)
  | some operand =>
      cases right' with
      | none => cases operand <;> exact absurd h (Json.tagged_ne_null _ _)
      | some operand' =>
          simp only [listRight] at h
          rw [Operand.toJson_injective operand operand' h]

theorem listSteps_injective (steps steps' : List Step) (h : listSteps steps = listSteps steps') :
    steps = steps' := by
  cases steps with
  | nil =>
      cases steps' with
      | nil => rfl
      | cons step' rest' => simp [listSteps] at h
  | cons step rest =>
      cases steps' with
      | nil => simp [listSteps] at h
      | cons step' rest' =>
          simp only [listSteps, List.cons.injEq] at h
          rw [Step.toJson_injective step step' h.1, listSteps_injective rest rest' h.2]

theorem listConditions_injective (conditions conditions' : List Condition)
    (h : listConditions conditions = listConditions conditions') : conditions = conditions' := by
  cases conditions with
  | nil =>
      cases conditions' with
      | nil => rfl
      | cons condition' rest' => simp [listConditions] at h
  | cons condition rest =>
      cases conditions' with
      | nil => simp [listConditions] at h
      | cons condition' rest' =>
          simp only [listConditions, List.cons.injEq] at h
          rw [Condition.toJson_injective condition condition' h.1,
            listConditions_injective rest rest' h.2]

end

end PathQuery
