import Mathlib.Data.List.Forall2
import PathQuery.Proofs.Select.Regrouping

/-!
# The order of conditions

The conditions of a composite are asked from left to right, and no further than needed;
so their order may decide whether a failure is met.  It decides nothing else: if the
conditions of composites are put into another order, at any depth, and neither evaluation
fails, the verdicts are the same.  The two evaluations ask different conditions, so what is
compared are outcomes of which either may be a failure.
-/

namespace PathQuery

/-! ## Outcomes that do not contradict each other -/

/-- Two outcomes have the same value, unless one of them is a failure. -/
def Consistent {α : Type} (outcome other : Except SelectError α) : Prop :=
  ∀ value value', outcome = .ok value → other = .ok value' → value = value'

namespace Consistent

variable {α β : Type}

theorem refl (outcome : Except SelectError α) : Consistent outcome outcome := by
  intro value value' h h'
  exact Except.ok.inj (h.symm.trans h')

theorem symm {outcome other : Except SelectError α} (h : Consistent outcome other) :
    Consistent other outcome :=
  fun value value' hvalue hvalue' => (h value' value hvalue' hvalue).symm

theorem of_error_left (error : SelectError) (other : Except SelectError α) :
    Consistent (.error error) other := by
  intro value value' h
  cases h

theorem of_error_right (outcome : Except SelectError α) (error : SelectError) :
    Consistent outcome (.error error) := by
  intro value value' _ h'
  cases h'

/-- Outcomes that do not contradict each other go on to such outcomes. -/
theorem bind {outcome other : Except SelectError α}
    {continuation continuation' : α → Except SelectError β} (h : Consistent outcome other)
    (hcontinuation : ∀ value, Consistent (continuation value) (continuation' value)) :
    Consistent (outcome >>= continuation) (other >>= continuation') := by
  cases outcome with
  | error error => exact of_error_left error _
  | ok value =>
    cases other with
    | error error => exact of_error_right _ error
    | ok value' =>
      obtain rfl := h value value' rfl rfl
      exact hcontinuation value

end Consistent

/-- Two lists of items are equal up to the first failure in either of them. -/
inductive ConsistentItems : List Item → List Item → Prop
  | nil : ConsistentItems [] []
  | cons (node : Json) {items others : List Item} (h : ConsistentItems items others) :
    ConsistentItems (.ok node :: items) (.ok node :: others)
  | left (error : SelectError) (items others : List Item) :
    ConsistentItems (.error error :: items) others
  | right (items : List Item) (error : SelectError) (others : List Item) :
    ConsistentItems items (.error error :: others)

namespace ConsistentItems

theorem refl (items : List Item) : ConsistentItems items items := by
  induction items with
  | nil => exact .nil
  | cons item rest ih =>
    cases item with
    | ok node => exact .cons node ih
    | error error => exact .left error _ _

theorem append {items others items' others' : List Item} (h : ConsistentItems items others)
    (h' : ConsistentItems items' others') :
    ConsistentItems (items ++ items') (others ++ others') := by
  induction h with
  | nil => exact h'
  | cons node _ ih => exact .cons node ih
  | left error items others => exact .left error _ _
  | right items error others => exact .right _ error _

/-- Replacing the nodes of such lists leaves such lists: no failure is lost. -/
theorem replaceNodes {results results' : Json → List Item} {items others : List Item}
    (hresults : ∀ node, ConsistentItems (results node) (results' node))
    (h : ConsistentItems items others) :
    ConsistentItems (PathQuery.replaceNodes results items)
      (PathQuery.replaceNodes results' others) := by
  induction h with
  | nil => exact .nil
  | cons node _ ih =>
    rw [replaceNodes_node, replaceNodes_node]
    exact (hresults node).append ih
  | left error items others =>
    rw [replaceNodes_failure]
    exact .left error _ _
  | right items error others =>
    rw [replaceNodes_failure results']
    exact .right _ error _

theorem keptNodes {holds holds' : Json → Except SelectError Bool}
    (h : ∀ node, Consistent (holds node) (holds' node)) (nodes : List Json) :
    ConsistentItems (PathQuery.keptNodes holds nodes) (PathQuery.keptNodes holds' nodes) := by
  unfold PathQuery.keptNodes
  induction nodes with
  | nil => exact .nil
  | cons node rest ih =>
    have hnode := h node
    rw [List.filterMap_cons, List.filterMap_cons]
    cases hleft : holds node with
    | error error => exact .left error _ _
    | ok kept =>
      cases hright : holds' node with
      | error error => exact .right _ error _
      | ok kept' =>
        obtain rfl := hnode kept kept' hleft hright
        cases kept with
        | false => exact ih
        | true => exact .cons node ih

theorem firstItem {items others : List Item} (h : ConsistentItems items others) :
    Consistent (PathQuery.firstItem items) (PathQuery.firstItem others) := by
  cases h with
  | nil => exact .refl _
  | cons node _ => exact .refl _
  | left error items others => exact .of_error_left error _
  | right items error others => exact .of_error_right _ error

end ConsistentItems

/-! ## Conditions in another order -/

mutual

/-- A step whose condition, if it asks one, has its composites in another order. -/
inductive Step.Reorders : Step → Step → Prop
  | same (step : Step) : Step.Reorders step step
  | filter {condition other : Condition} (h : condition.Reorders other) :
    Step.Reorders (.filter condition) (.filter other)
  | descendFilter {condition other : Condition} (h : condition.Reorders other) :
    Step.Reorders (.descendFilter condition) (.descendFilter other)

/-- A condition whose composites, at any depth, have their conditions in another order. -/
inductive Condition.Reorders : Condition → Condition → Prop
  | same (condition : Condition) : Condition.Reorders condition condition
  | composite (connective : Connective) {conditions others reordered : List Condition}
    (h : List.Forall₂ Condition.Reorders conditions others) (hperm : others.Perm reordered) :
    Condition.Reorders (.composite connective conditions) (.composite connective reordered)
  | comparison (operator : Operator) {left left' : Operand} {right right' : Option Operand}
    (hleft : left.Reorders left') (hright : Option.Rel Operand.Reorders right right') :
    Condition.Reorders (.comparison operator left right) (.comparison operator left' right')

/-- An operand whose steps have the composites of their conditions in another order. -/
inductive Operand.Reorders : Operand → Operand → Prop
  | same (operand : Operand) : Operand.Reorders operand operand
  | path {steps others : List Step} (h : List.Forall₂ Step.Reorders steps others) :
    Operand.Reorders (.path steps) (.path others)

end

section Verdicts

variable {settings : Settings} {root : Json}

section Composites

variable {connective : Connective} {conditions : List Condition} {node : Json}

/-- In a composite that is decided, a condition decides. -/
theorem exists_of_holds_decisive
    (h : (Condition.composite connective conditions).holds settings root node =
      .ok connective.decisive) :
    ∃ condition ∈ conditions, condition.holds settings root node = .ok connective.decisive := by
  induction conditions with
  | nil =>
    rw [holds_composite_nil] at h
    exact absurd (Except.ok.inj h) (Bool.not_eq_self _).1
  | cons condition rest ih =>
    rw [holds_composite_cons, Connective.chain_eq_ok] at h
    rcases h with ⟨hfirst, -⟩ | ⟨-, hrest⟩
    · exact ⟨condition, List.mem_cons_self, hfirst⟩
    · obtain ⟨later, hlater, hholds⟩ := ih hrest
      exact ⟨later, List.mem_cons_of_mem _ hlater, hholds⟩

/-- In a composite that is left undecided to its end, no condition decides. -/
theorem forall_of_holds_neutral
    (h : (Condition.composite connective conditions).holds settings root node =
      .ok !connective.decisive) :
    ∀ condition ∈ conditions,
      condition.holds settings root node = .ok !connective.decisive := by
  induction conditions with
  | nil =>
    intro condition hmem
    cases hmem
  | cons condition rest ih =>
    rw [holds_composite_cons, Connective.chain_eq_ok] at h
    rcases h with ⟨-, hneutral⟩ | ⟨hfirst, hrest⟩
    · exact absurd hneutral (Bool.not_eq_self _).1
    · exact List.forall_mem_cons.2 ⟨hfirst, ih hrest⟩

end Composites

/-- Two conditions whose verdicts do not contradict each other, whatever the node. -/
def Condition.ConsistentWith (settings : Settings) (root : Json)
    (condition other : Condition) : Prop :=
  ∀ node, Consistent (condition.holds settings root node) (other.holds settings root node)

/-- If a composite is decided, another one in which each condition has a counterpart is not
left undecided. -/
theorem not_neutral_of_decisive {connective : Connective} {conditions others : List Condition}
    {node : Json}
    (hothers : ∀ condition ∈ conditions, ∃ other ∈ others,
      condition.ConsistentWith settings root other)
    (h : (Condition.composite connective conditions).holds settings root node =
      .ok connective.decisive) :
    (Condition.composite connective others).holds settings root node ≠
      .ok !connective.decisive := by
  intro hneutral
  obtain ⟨condition, hmem, hholds⟩ := exists_of_holds_decisive h
  obtain ⟨other, hmem', hconsistent⟩ := hothers condition hmem
  have hsame := hconsistent node _ _ hholds (forall_of_holds_neutral hneutral other hmem')
  exact (Bool.eq_not_self _).1 hsame

/-- Composites do not contradict each other if each condition of either has a counterpart
in the other one. -/
theorem consistent_composite (connective : Connective) {conditions others : List Condition}
    (hleft : ∀ condition ∈ conditions, ∃ other ∈ others,
      condition.ConsistentWith settings root other)
    (hright : ∀ other ∈ others, ∃ condition ∈ conditions,
      other.ConsistentWith settings root condition) :
    (Condition.composite connective conditions).ConsistentWith settings root
      (.composite connective others) := by
  intro node verdict verdict' h h'
  by_contra hne
  by_cases hverdict : verdict = connective.decisive
  · obtain rfl := hverdict
    obtain rfl : verdict' = !connective.decisive := Bool.eq_not.2 (Ne.symm hne)
    exact not_neutral_of_decisive hleft h h'
  · obtain rfl : verdict = !connective.decisive := Bool.eq_not.2 hverdict
    obtain rfl : verdict' = connective.decisive := by
      rw [Bool.eq_not.2 (Ne.symm hne), Bool.not_not]
    exact not_neutral_of_decisive hright h' h

/-- Every item of a list has a counterpart in a list that is related to it place by place. -/
theorem exists_of_forall₂ {α β : Type} {R : α → β → Prop} {items : List α} {others : List β}
    (h : List.Forall₂ R items others) : ∀ item ∈ items, ∃ other ∈ others, R item other := by
  induction h with
  | nil =>
    intro item hmem
    cases hmem
  | cons hfirst _ ih =>
    refine List.forall_mem_cons.2 ⟨⟨_, List.mem_cons_self, hfirst⟩, fun item hmem => ?_⟩
    obtain ⟨other, hmem', hrelated⟩ := ih item hmem
    exact ⟨other, List.mem_cons_of_mem _ hmem', hrelated⟩

/-- A right operand and the same one in another order are one regular expression, or none. -/
theorem regex?_eq_of_reorders {right right' : Option Operand}
    (h : Option.Rel Operand.Reorders right right') :
    Operand.regex? right = Operand.regex? right' := by
  cases h with
  | none => rfl
  | some h => cases h <;> rfl

mutual

/-- A step yields the same items with its conditions in another order, up to a failure of either.
A path inside an operand is evaluated anew, so its steps are part of the same induction. -/
theorem Step.results_consistent (step : Step) {other : Step} (h : step.Reorders other)
    (node : Json) :
    ConsistentItems (settings.results root step node) (settings.results root other node) := by
  cases step with
  | filter condition =>
    cases h with
    | same => exact .refl _
    | filter h =>
      rw [Settings.results, Settings.results]
      exact .keptNodes (Condition.holds_consistent condition h) _
  | descendFilter condition =>
    cases h with
    | same => exact .refl _
    | descendFilter h =>
      rw [Settings.results, Settings.results]
      exact .keptNodes (Condition.holds_consistent condition h) _
  | _ =>
    cases h
    exact .refl _
termination_by structural step

theorem Condition.holds_consistent (condition : Condition) {other : Condition}
    (h : condition.Reorders other) : condition.ConsistentWith settings root other := by
  cases condition with
  | composite connective conditions =>
    cases h with
    | same => exact fun node => .refl _
    | composite _ hothers hperm =>
      have hpairs := conditions_consistent conditions hothers
      refine consistent_composite connective ?_ ?_
      · intro condition hmem
        obtain ⟨other, hmem', hconsistent⟩ := exists_of_forall₂ hpairs condition hmem
        exact ⟨other, hperm.subset hmem', hconsistent⟩
      · intro other hmem
        obtain ⟨condition, hmem', hconsistent⟩ :=
          exists_of_forall₂ (List.Forall₂.flip hpairs) other (hperm.mem_iff.2 hmem)
        exact ⟨condition, hmem', fun node => (hconsistent node).symm⟩
  | comparison operator left right =>
    cases h with
    | same => exact fun node => .refl _
    | comparison _ hleft hright =>
      intro node
      rw [Condition.holds, Condition.holds]
      refine (Operand.first_consistent left hleft node).bind fun leftNode? => ?_
      cases leftNode? with
      | none => exact .refl _
      | some leftNode =>
        simp only
        split
        · exact .refl _
        · refine (firstRight_consistent right hright node).bind fun rightNode? => ?_
          rw [regex?_eq_of_reorders hright]
          exact .refl _
termination_by structural condition

theorem conditions_consistent (conditions : List Condition) {others : List Condition}
    (h : List.Forall₂ Condition.Reorders conditions others) :
    List.Forall₂ (Condition.ConsistentWith settings root) conditions others := by
  cases conditions with
  | nil =>
    cases h
    exact .nil
  | cons condition rest =>
    cases h with
    | cons hfirst hrest =>
      exact .cons (Condition.holds_consistent condition hfirst) (conditions_consistent rest hrest)
termination_by structural conditions

theorem Operand.first_consistent (operand : Operand) {other : Operand}
    (h : operand.Reorders other) (node : Json) :
    Consistent (operand.first settings root node) (other.first settings root node) := by
  cases operand with
  | path steps =>
    cases h with
    | same => exact .refl _
    | path hsteps =>
      rw [first_path, first_path]
      exact (resultsFrom_consistent steps hsteps (.refl [.ok node])).firstItem
  | literal value =>
    cases h
    exact .refl _
  | regex expression =>
    cases h
    exact .refl _
termination_by structural operand

theorem firstRight_consistent (right : Option Operand) {other : Option Operand}
    (h : Option.Rel Operand.Reorders right other) (node : Json) :
    Consistent (firstRight settings root right node) (firstRight settings root other node) := by
  cases right with
  | none =>
    cases h
    exact .refl _
  | some operand =>
    cases h with
    | some h =>
      rw [firstRight, firstRight]
      exact Operand.first_consistent operand h node
termination_by structural right

theorem resultsFrom_consistent (steps : List Step) {other : List Step}
    (h : List.Forall₂ Step.Reorders steps other) {items others : List Item}
    (hitems : ConsistentItems items others) :
    ConsistentItems (resultsFrom settings root steps items)
      (resultsFrom settings root other others) := by
  cases steps with
  | nil =>
    cases h
    exact hitems
  | cons step rest =>
    cases h with
    | cons hstep hrest =>
      rw [resultsFrom, resultsFrom]
      exact resultsFrom_consistent rest hrest
        (hitems.replaceNodes (Step.results_consistent step hstep))
termination_by structural steps

end

end Verdicts

/-- Conditions do not depend on how they are grouped, nor on their order unless one fails.
Under all settings, and whatever the root and the node, leaving out groups or putting them
in, at any depth, keeps the outcome, be it a verdict or a failure; and if the conditions of
composites are put into another order, at any depth, and both evaluations have a verdict,
the verdicts are equal. -/
theorem composites_regroup_and_reorder (settings : Settings) (root node : Json)
    (condition other : Condition) :
    (Relation.EqvGen Condition.Regroups condition other →
      condition.holds settings root node = other.holds settings root node) ∧
    (condition.Reorders other → ∀ verdict verdict',
      condition.holds settings root node = .ok verdict →
        other.holds settings root node = .ok verdict' → verdict = verdict') :=
  ⟨fun h => holds_eq_of_regrouped h node, fun h => Condition.holds_consistent condition h node⟩

/-- A group of one condition in front of another condition is left out, and the two
conditions change their places. -/
theorem composites_regroup_and_reorder_pair :
    (Condition.composite .and [.composite .and [.comparison .present (.literal .null) none],
        .comparison .present (.path [.member (some "a")]) none]).holds {} .null .null =
      (Condition.composite .and [.comparison .present (.literal .null) none,
        .comparison .present (.path [.member (some "a")]) none]).holds {} .null .null ∧
    ∀ verdict,
      (Condition.composite .and [.comparison .present (.path [.member (some "a")]) none,
        .comparison .present (.literal .null) none]).holds {} .null .null = .ok verdict →
      verdict = false := by
  constructor
  · exact (composites_regroup_and_reorder {} .null .null _ _).1
      (.rel _ _ (.inside .and [] _ (.alone .and _)))
  · intro verdict hverdict
    exact (composites_regroup_and_reorder {} .null .null _ _).2
      (.composite .and (List.forall₂_same.2 fun _ _ => .same _) (.swap _ _ _)) _ _ hverdict rfl

end PathQuery
