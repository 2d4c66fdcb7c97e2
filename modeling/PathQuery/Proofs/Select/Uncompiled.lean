import PathQuery.Proofs.Path.Parts
import PathQuery.Select.Selection

/-!
# Regular expressions given by their text

A regular expression that is written in a path is compiled when the path is read.  A string
that stands at the same place is compiled anew at each match.  Since a literal keeps the
text that it was compiled from, and nothing but a match looks at the compiled form, it is
the same in either way.  Main statement: a path hands out the same selection, and a
condition has the same outcome, if every regular expression in it is replaced by its text.
-/

namespace PathQuery

/-! ## Text in the place of regular expressions -/

mutual

/-- The step with the text of every regular expression in its place. -/
def Step.uncompiled : Step → Step
  | .filter condition => .filter condition.uncompiled
  | .descendFilter condition => .descendFilter condition.uncompiled
  | step => step

/-- The condition with the text of every regular expression in its place. -/
def Condition.uncompiled : Condition → Condition
  | .composite connective conditions =>
    .composite connective (uncompiledConditions conditions)
  | .comparison operator left right =>
    .comparison operator left.uncompiled (uncompiledRight right)

/-- The operand with the text of every regular expression in its place; one that is a
regular expression itself becomes a string. -/
def Operand.uncompiled : Operand → Operand
  | .path steps => .path (uncompiledSteps steps)
  | .literal value => .literal value
  | .regex literal => .literal (.string literal.text)

/-- The right operand, which may be absent, with the text of every regular expression in
its place. -/
def uncompiledRight : Option Operand → Option Operand
  | none => none
  | some operand => some operand.uncompiled

/-- The steps with the text of every regular expression in its place. -/
def uncompiledSteps : List Step → List Step
  | [] => []
  | step :: rest => step.uncompiled :: uncompiledSteps rest

/-- The conditions with the text of every regular expression in its place. -/
def uncompiledConditions : List Condition → List Condition
  | [] => []
  | condition :: rest => condition.uncompiled :: uncompiledConditions rest

end

mutual

/-- No regular expression is left: only an operand can be one, and it is replaced, while a step
keeps its own parts and those of its condition. -/
theorem Step.regex_not_mem_uncompiled (literal : RegexLiteral) (step : Step) :
    .operand (.regex literal) ∉ step.uncompiled.parts := by
  cases step with
  | filter condition =>
      rw [Step.uncompiled, Step.parts, List.mem_cons, not_or]
      exact ⟨by simp, Condition.regex_not_mem_uncompiled literal condition⟩
  | descendFilter condition =>
      rw [Step.uncompiled, Step.parts, List.mem_cons, not_or]
      exact ⟨by simp, Condition.regex_not_mem_uncompiled literal condition⟩
  | _ => simp [Step.uncompiled, Step.parts]

theorem Condition.regex_not_mem_uncompiled (literal : RegexLiteral) (condition : Condition) :
    .operand (.regex literal) ∉ condition.uncompiled.parts := by
  cases condition with
  | composite connective conditions =>
      rw [Condition.uncompiled, Condition.parts, List.mem_cons, not_or]
      exact ⟨by simp, regex_not_mem_uncompiledConditions literal conditions⟩
  | comparison operator left right =>
      rw [Condition.uncompiled, Condition.parts, List.mem_cons, not_or, List.mem_append, not_or]
      exact ⟨by simp, Operand.regex_not_mem_uncompiled literal left,
        regex_not_mem_uncompiledRight literal right⟩

theorem Operand.regex_not_mem_uncompiled (literal : RegexLiteral) (operand : Operand) :
    .operand (.regex literal) ∉ operand.uncompiled.parts := by
  cases operand with
  | path steps =>
      rw [Operand.uncompiled, Operand.parts, List.mem_cons, not_or]
      exact ⟨by simp, regex_not_mem_uncompiledSteps literal steps⟩
  | literal value => simp [Operand.uncompiled, Operand.parts]
  | regex other => simp [Operand.uncompiled, Operand.parts]

theorem regex_not_mem_uncompiledRight (literal : RegexLiteral) (right : Option Operand) :
    .operand (.regex literal) ∉ partsOfRight (uncompiledRight right) := by
  cases right with
  | none => exact List.not_mem_nil
  | some operand =>
      rw [uncompiledRight, partsOfRight]
      exact Operand.regex_not_mem_uncompiled literal operand

theorem regex_not_mem_uncompiledSteps (literal : RegexLiteral) (steps : List Step) :
    .operand (.regex literal) ∉ partsOfSteps (uncompiledSteps steps) := by
  cases steps with
  | nil => exact List.not_mem_nil
  | cons step rest =>
      rw [uncompiledSteps, partsOfSteps, List.mem_append, not_or]
      exact ⟨Step.regex_not_mem_uncompiled literal step,
        regex_not_mem_uncompiledSteps literal rest⟩

theorem regex_not_mem_uncompiledConditions (literal : RegexLiteral)
    (conditions : List Condition) :
    .operand (.regex literal) ∉ partsOfConditions (uncompiledConditions conditions) := by
  cases conditions with
  | nil => exact List.not_mem_nil
  | cons condition rest =>
      rw [uncompiledConditions, partsOfConditions, List.mem_append, not_or]
      exact ⟨Condition.regex_not_mem_uncompiled literal condition,
        regex_not_mem_uncompiledConditions literal rest⟩

end

/-! ## Matches -/

/-- Compiling the text of a literal gives the literal, so a match with the text is one with
the literal. -/
theorem regexMatch_text (settings : Settings) (literal : RegexLiteral) (left : Json) :
    settings.regexMatch none left (.string literal.text) =
      settings.regexMatch (some literal) left (.string literal.text) := by
  cases left with
  | string text => simp only [Settings.regexMatch, RegexLiteral.ofText_text]
  | _ => rfl

/-- Only a match looks at the compiled form of a right operand. -/
theorem holdsBetween_text (settings : Settings) (operator : Operator) (literal : RegexLiteral)
    (left : Json) :
    settings.holdsBetween operator none left (.string literal.text) =
      settings.holdsBetween operator (some literal) left (.string literal.text) := by
  cases operator with
  | matchesRegex => simp only [Settings.holdsBetween, regexMatch_text]
  | _ => rfl

/-! ## Evaluation -/

section Evaluation

variable (settings : Settings) (root : Json)

mutual

/-- A step yields the same nodes with the text of every regular expression in its place; only the
right side of a comparison has a compiled form, which is that of its text. -/
theorem Step.outputs_uncompiled (step : Step) (node : Json) :
    step.uncompiled.outputs settings root node = step.outputs settings root node := by
  cases step with
  | filter condition =>
      rw [Step.uncompiled, Step.outputs, Step.outputs]
      congr 1
      funext child
      exact Condition.holds_uncompiled condition child
  | descendFilter condition =>
      rw [Step.uncompiled, Step.outputs, Step.outputs]
      congr 1
      funext child
      exact Condition.holds_uncompiled condition child
  | _ => simp only [Step.uncompiled]

theorem Condition.holds_uncompiled (condition : Condition) (node : Json) :
    condition.uncompiled.holds settings root node = condition.holds settings root node := by
  cases condition with
  | composite connective conditions =>
      cases connective with
      | and =>
          rw [Condition.uncompiled, Condition.holds, Condition.holds]
          exact allHold_uncompiled conditions node
      | or =>
          rw [Condition.uncompiled, Condition.holds, Condition.holds]
          exact anyHolds_uncompiled conditions node
  | comparison operator left right =>
      rw [Condition.uncompiled, Condition.holds, Condition.holds,
        Operand.first_uncompiled left node, firstRight_uncompiled right node]
      cases right with
      | none => rfl
      | some operand =>
          cases operand with
          | path steps => rfl
          | literal value => rfl
          | regex literal =>
              rw [firstRight, Operand.first]
              congr 1
              funext leftNode?
              cases leftNode? with
              | none => rfl
              | some leftNode =>
                  simp only
                  split
                  · rfl
                  · exact holdsBetween_text settings operator literal leftNode

theorem allHold_uncompiled (conditions : List Condition) (node : Json) :
    allHold settings root (uncompiledConditions conditions) node =
      allHold settings root conditions node := by
  cases conditions with
  | nil => rw [uncompiledConditions]
  | cons condition rest =>
      rw [uncompiledConditions, allHold, allHold, Condition.holds_uncompiled condition node,
        allHold_uncompiled rest node]

theorem anyHolds_uncompiled (conditions : List Condition) (node : Json) :
    anyHolds settings root (uncompiledConditions conditions) node =
      anyHolds settings root conditions node := by
  cases conditions with
  | nil => rw [uncompiledConditions]
  | cons condition rest =>
      rw [uncompiledConditions, anyHolds, anyHolds, Condition.holds_uncompiled condition node,
        anyHolds_uncompiled rest node]

theorem Operand.first_uncompiled (operand : Operand) (node : Json) :
    operand.uncompiled.first settings root node = operand.first settings root node := by
  cases operand with
  | path steps =>
      rw [Operand.uncompiled, Operand.first, Operand.first, applySteps_uncompiled steps]
  | literal value => rw [Operand.uncompiled]
  | regex literal => rw [Operand.uncompiled, Operand.first, Operand.first]

theorem firstRight_uncompiled (right : Option Operand) (node : Json) :
    firstRight settings root (uncompiledRight right) node =
      firstRight settings root right node := by
  cases right with
  | none => rw [uncompiledRight]
  | some operand =>
      rw [uncompiledRight, firstRight, firstRight, Operand.first_uncompiled operand node]

theorem applySteps_uncompiled (steps : List Step) (items : LazyList Item) :
    applySteps settings root (uncompiledSteps steps) items =
      applySteps settings root steps items := by
  cases steps with
  | nil => rw [uncompiledSteps]
  | cons step rest =>
      rw [uncompiledSteps, applySteps, applySteps, applySteps_uncompiled rest]
      congr 3
      funext node
      exact Step.outputs_uncompiled step node

end

end Evaluation

/-- A path with the text of each of its regular expressions in their places. -/
def Path.uncompiled (path : Path) : Path :=
  ⟨path.text, uncompiledSteps path.steps⟩

/-- Compiling a regular expression once changes no answer.  If every regular expression in a
path, at any depth and on either side of a comparison, is replaced by the string that is its
text, then none is left, and under all settings the selection is the same, item by item; and
so is the outcome of a condition, be it an answer or a failure. -/
theorem selection_eq_uncompiled (path : Path) (settings : Settings) (root current : Json) :
    (∀ literal, .operand (.regex literal) ∉ partsOfSteps path.uncompiled.steps) ∧
    path.uncompiled.selectFrom settings root current = path.selectFrom settings root current ∧
    ∀ condition : Condition,
      (∀ literal, .operand (.regex literal) ∉ condition.uncompiled.parts) ∧
      condition.uncompiled.holds settings root current =
        condition.holds settings root current := by
  refine ⟨?_, ?_, ?_⟩
  · intro literal
    exact regex_not_mem_uncompiledSteps literal path.steps
  · rw [Path.selectFrom, Path.selectFrom, evaluate, evaluate, Path.uncompiled,
      applySteps_uncompiled]
  · intro condition
    refine ⟨?_, Condition.holds_uncompiled settings root condition current⟩
    intro literal
    exact Condition.regex_not_mem_uncompiled literal condition

end PathQuery
