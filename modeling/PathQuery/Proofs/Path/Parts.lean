import PathQuery.Path.Step

/-!
# The parts of a path

The steps, conditions and operands of a path, at every depth.  A property that a
path has somewhere inside is one of its parts.
-/

namespace PathQuery

/-- A part of a path. -/
inductive Part
  | step (step : Step)
  | condition (condition : Condition)
  | operand (operand : Operand)

mutual

/-- A step and the parts of its condition. -/
def Step.parts : Step → List Part
  | .filter condition => .step (.filter condition) :: condition.parts
  | .descendFilter condition => .step (.descendFilter condition) :: condition.parts
  | step => [.step step]

/-- A condition and the parts of what it joins or compares. -/
def Condition.parts : Condition → List Part
  | .composite connective conditions =>
    .condition (.composite connective conditions) :: partsOfConditions conditions
  | .comparison operator left right =>
    .condition (.comparison operator left right) :: (left.parts ++ partsOfRight right)

/-- An operand and the parts of its path. -/
def Operand.parts : Operand → List Part
  | .path steps => .operand (.path steps) :: partsOfSteps steps
  | operand => [.operand operand]

/-- The parts of a right operand, which may be absent. -/
def partsOfRight : Option Operand → List Part
  | none => []
  | some operand => operand.parts

/-- The parts of some steps. -/
def partsOfSteps : List Step → List Part
  | [] => []
  | step :: rest => step.parts ++ partsOfSteps rest

/-- The parts of some conditions. -/
def partsOfConditions : List Condition → List Part
  | [] => []
  | condition :: rest => condition.parts ++ partsOfConditions rest

end

theorem Step.mem_parts_self (step : Step) : .step step ∈ step.parts := by
  cases step with
  | filter condition =>
      rw [Step.parts]
      exact List.mem_cons_self
  | descendFilter condition =>
      rw [Step.parts]
      exact List.mem_cons_self
  | _ => exact List.mem_singleton_self _

theorem Condition.mem_parts_self (condition : Condition) :
    .condition condition ∈ condition.parts := by
  cases condition with
  | composite connective conditions =>
      rw [Condition.parts]
      exact List.mem_cons_self
  | comparison operator left right =>
      rw [Condition.parts]
      exact List.mem_cons_self

/-- The parts of a filter's condition are parts of the filter. -/
theorem Step.parts_subset_of_asks {step : Step} {condition : Condition}
    (h : step = .filter condition ∨ step = .descendFilter condition) :
    condition.parts ⊆ step.parts := by
  rcases h with rfl | rfl
  · rw [Step.parts]
    exact List.subset_cons_self _ _
  · rw [Step.parts]
    exact List.subset_cons_self _ _

end PathQuery
