import Mathlib.Logic.Relation
import PathQuery.Proofs.Select.Composition

/-!
# Grouping of conditions

Conditions that are joined are asked from left to right, up to the first one that decides.
So it makes no difference how they are grouped: a composite inside another one of the same
connective may give its conditions to the outer one, and a composite of one condition may
be left out.  This holds for failures too, since the conditions are asked in one order, and
for composites at any depth, also in a filter of an operand's path.
-/

namespace PathQuery

/-- The verdict on one condition that decides a composite. -/
def Connective.decisive : Connective → Bool
  | and => false
  | or => true

namespace Connective

/-- The outcome of a condition, unless it leaves the decision to what follows. -/
def chain (connective : Connective) (first rest : Except SelectError Bool) :
    Except SelectError Bool :=
  match first with
  | .ok verdict => if verdict = connective.decisive then .ok verdict else rest
  | .error error => .error error

variable (connective : Connective)

theorem chain_assoc (first second rest : Except SelectError Bool) :
    connective.chain (connective.chain first second) rest =
      connective.chain first (connective.chain second rest) := by
  cases first with
  | error error => rfl
  | ok verdict =>
    by_cases hdecisive : verdict = connective.decisive
    · simp [chain, hdecisive]
    · simp [chain, hdecisive]

/-- A verdict that does not decide leaves the decision to what follows. -/
theorem chain_neutral_left (rest : Except SelectError Bool) :
    connective.chain (.ok !connective.decisive) rest = rest := by
  cases connective <;> rfl

/-- What stands last decides. -/
theorem chain_neutral_right (first : Except SelectError Bool) :
    connective.chain first (.ok !connective.decisive) = first := by
  cases first with
  | error error => rfl
  | ok verdict => cases connective <;> cases verdict <;> rfl

/-- A chain has a verdict if its first condition decides, or leaves the decision to what
follows. -/
theorem chain_eq_ok {first rest : Except SelectError Bool} {verdict : Bool} :
    connective.chain first rest = .ok verdict ↔
      first = .ok connective.decisive ∧ verdict = connective.decisive ∨
        first = .ok !connective.decisive ∧ rest = .ok verdict := by
  cases first with
  | error error => simp [chain]
  | ok value => cases connective <;> cases value <;> simp [chain, decisive, eq_comm]

end Connective

/-! ## The outcome of a composite -/

section Composites

variable (settings : Settings) (root : Json) (connective : Connective) (node : Json)

theorem holds_composite_nil :
    (Condition.composite connective []).holds settings root node =
      .ok !connective.decisive := by
  cases connective with
  | and => rw [Condition.holds, allHold]; rfl
  | or => rw [Condition.holds, anyHolds]; rfl

theorem holds_composite_cons (condition : Condition) (rest : List Condition) :
    (Condition.composite connective (condition :: rest)).holds settings root node =
      connective.chain (condition.holds settings root node)
        ((Condition.composite connective rest).holds settings root node) := by
  cases connective with
  | and =>
    rw [Condition.holds, Condition.holds, allHold]
    cases condition.holds settings root node with
    | error error => rfl
    | ok verdict => cases verdict <;> rfl
  | or =>
    rw [Condition.holds, Condition.holds, anyHolds]
    cases condition.holds settings root node with
    | error error => rfl
    | ok verdict => cases verdict <;> rfl

/-- The conditions at the end are asked if those in front of them do not decide. -/
theorem holds_composite_append (before after : List Condition) :
    (Condition.composite connective (before ++ after)).holds settings root node =
      connective.chain ((Condition.composite connective before).holds settings root node)
        ((Condition.composite connective after).holds settings root node) := by
  induction before with
  | nil => rw [List.nil_append, holds_composite_nil, connective.chain_neutral_left]
  | cons condition rest ih =>
    rw [List.cons_append, holds_composite_cons, holds_composite_cons, ih,
      connective.chain_assoc]

end Composites

/-! ## Groups that are left out -/

/-- A step that asks a condition, of the children of a node or of the node and everything
beneath it. -/
def Step.asking (beneath : Bool) (condition : Condition) : Step :=
  if beneath then .descendFilter condition else .filter condition

/-- The second condition is the first one with one group left out: a composite in another one
of its connective, or a composite of one condition.  The group may stand in a condition of a
composite, or in a filter on either side of a comparison. -/
inductive Condition.Regroups : Condition → Condition → Prop
  | flatten (connective : Connective) (before inner after : List Condition) :
    Condition.Regroups (.composite connective (before ++ .composite connective inner :: after))
      (.composite connective (before ++ (inner ++ after)))
  | alone (connective : Connective) (condition : Condition) :
    Condition.Regroups (.composite connective [condition]) condition
  | inside (connective : Connective) (before after : List Condition) {one other : Condition}
    (h : one.Regroups other) :
    Condition.Regroups (.composite connective (before ++ one :: after))
      (.composite connective (before ++ other :: after))
  | left (operator : Operator) (beneath : Bool) (before after : List Step)
    (right : Option Operand) {one other : Condition} (h : one.Regroups other) :
    Condition.Regroups
      (.comparison operator (.path (before ++ .asking beneath one :: after)) right)
      (.comparison operator (.path (before ++ .asking beneath other :: after)) right)
  | right (operator : Operator) (beneath : Bool) (before after : List Step)
    (left : Operand) {one other : Condition} (h : one.Regroups other) :
    Condition.Regroups
      (.comparison operator left (some (.path (before ++ .asking beneath one :: after))))
      (.comparison operator left (some (.path (before ++ .asking beneath other :: after))))

section Regrouping

variable {settings : Settings} {root : Json}

/-- If a condition in a step is replaced by one of the same outcomes, an operand that is a
path has the same first node. -/
theorem first_asking {one other : Condition}
    (h : ∀ node, one.holds settings root node = other.holds settings root node)
    (beneath : Bool) (before after : List Step) (node : Json) :
    (Operand.path (before ++ .asking beneath one :: after)).first settings root node =
      (Operand.path (before ++ .asking beneath other :: after)).first settings root node := by
  have hresults : settings.results root (.asking beneath one) =
      settings.results root (.asking beneath other) := by
    have hholds := funext h
    funext node
    cases beneath with
    | false => simp only [Step.asking, Bool.false_eq_true, if_false, Settings.results, hholds]
    | true => simp only [Step.asking, if_true, Settings.results, hholds]
  rw [first_path, first_path, eagerItems, eagerItems, resultsFrom_append, resultsFrom_append,
    resultsFrom, resultsFrom, hresults]

theorem Condition.Regroups.holds_eq {condition other : Condition}
    (h : condition.Regroups other) (node : Json) :
    condition.holds settings root node = other.holds settings root node := by
  induction h generalizing node with
  | flatten connective before inner after =>
    rw [holds_composite_append, holds_composite_cons, holds_composite_append,
      holds_composite_append]
  | alone connective condition =>
    rw [holds_composite_cons, holds_composite_nil, connective.chain_neutral_right]
  | inside connective before after _ ih =>
    rw [holds_composite_append, holds_composite_append, holds_composite_cons,
      holds_composite_cons, ih]
  | left operator beneath before after right _ ih =>
    rw [Condition.holds, Condition.holds, first_asking ih]
  | right operator beneath before after left _ ih =>
    rw [Condition.holds, Condition.holds, firstRight, firstRight, first_asking ih]
    rfl

/-- Conditions that differ in their groups have the same outcome. -/
theorem holds_eq_of_regrouped {condition other : Condition}
    (h : Relation.EqvGen Condition.Regroups condition other) (node : Json) :
    condition.holds settings root node = other.holds settings root node := by
  induction h with
  | rel _ _ h => exact h.holds_eq node
  | refl => rfl
  | symm _ _ _ ih => exact ih.symm
  | trans _ _ _ _ _ ih ih' => exact ih.trans ih'

end Regrouping

end PathQuery
