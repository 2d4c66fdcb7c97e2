import PathQuery.Proofs.Path.Parts
import PathQuery.Proofs.Select.Eager

/-!
# Two evaluations of one path

A path is evaluated twice, under settings of which the first ones may fail where
the others go on.  If single look-ups and matches agree up to such failures, so does
the whole evaluation: the items are the same up to the place where the first
evaluation fails, and a condition that the first one decides is decided alike by
the second one.  The two evaluations may also have different roots, where no part of
the path refers to the root.
-/

namespace PathQuery

variable {stops : SelectError → Prop}

/-! ## Agreement up to a failure -/

/-- Two lists of items are equal, or equal up to a failure of the first one that
stops the comparison. -/
inductive AgreesUntil (stops : SelectError → Prop) : List Item → List Item → Prop
  | nil : AgreesUntil stops [] []
  | cons (item : Item) {items others : List Item} (h : AgreesUntil stops items others) :
      AgreesUntil stops (item :: items) (item :: others)
  | stop {error : SelectError} (h : stops error) (items others : List Item) :
      AgreesUntil stops (.error error :: items) others

/-- Two outcomes are equal, or the first one is a failure that stops the
comparison. -/
def Concurs {α : Type} (stops : SelectError → Prop) (outcome other : Except SelectError α) :
    Prop :=
  outcome = other ∨ ∃ error, stops error ∧ outcome = .error error

theorem Concurs.refl {α : Type} (outcome : Except SelectError α) :
    Concurs stops outcome outcome :=
  Or.inl rfl

/-- Outcomes that concur go on to outcomes that concur. -/
theorem Concurs.bind {α β : Type} {outcome other : Except SelectError α}
    {continuation continuation' : α → Except SelectError β}
    (h : Concurs stops outcome other)
    (hcontinuation : ∀ value, Concurs stops (continuation value) (continuation' value)) :
    Concurs stops (outcome >>= continuation) (other >>= continuation') := by
  rcases h with rfl | ⟨error, hstops, rfl⟩
  · cases outcome with
    | error error => exact Concurs.refl _
    | ok value => exact hcontinuation value
  · exact Or.inr ⟨error, hstops, rfl⟩

theorem Concurs.map {α β : Type} {outcome other : Except SelectError α}
    (h : Concurs stops outcome other) (f : α → β) :
    Concurs stops (outcome.map f) (other.map f) := by
  rcases h with rfl | ⟨error, hstops, rfl⟩
  · exact Concurs.refl _
  · exact Or.inr ⟨error, hstops, rfl⟩

/-- What the first outcome decides is decided alike by the second one. -/
theorem Concurs.eq_ok {α : Type} {outcome other : Except SelectError α} {value : α}
    (h : Concurs stops outcome other) (hvalue : outcome = .ok value) : other = .ok value := by
  rcases h with rfl | ⟨error, -, herror⟩
  · exact hvalue
  · rw [herror] at hvalue
    cases hvalue

namespace AgreesUntil

theorem refl (items : List Item) : AgreesUntil stops items items := by
  induction items with
  | nil => exact .nil
  | cons item rest ih => exact .cons item ih

theorem append {items others items' others' : List Item}
    (h : AgreesUntil stops items others) (h' : AgreesUntil stops items' others') :
    AgreesUntil stops (items ++ items') (others ++ others') := by
  induction h with
  | nil => exact h'
  | cons item _ ih => exact .cons item ih
  | stop hstops rest others => exact .stop hstops _ _

theorem flatMap {α : Type} {results results' : α → List Item}
    (h : ∀ value, AgreesUntil stops (results value) (results' value)) (values : List α) :
    AgreesUntil stops (values.flatMap results) (values.flatMap results') := by
  induction values with
  | nil => exact .nil
  | cons value rest ih =>
      rw [List.flatMap_cons, List.flatMap_cons]
      exact (h value).append ih

/-- Replacing the nodes of two lists that agree leaves lists that agree: a failure
that both share is passed on by both, and a failure that stops is still ahead. -/
theorem replaceNodes {results results' : Json → List Item} {items others : List Item}
    (hresults : ∀ node, AgreesUntil stops (results node) (results' node))
    (h : AgreesUntil stops items others) :
    AgreesUntil stops (PathQuery.replaceNodes results items)
      (PathQuery.replaceNodes results' others) := by
  induction h with
  | nil => exact .nil
  | cons item _ ih =>
      unfold PathQuery.replaceNodes at ih ⊢
      rw [List.flatMap_cons, List.flatMap_cons]
      cases item with
      | ok node => exact (hresults node).append ih
      | error error => exact (refl [.error error]).append ih
  | stop hstops rest others => exact .stop hstops _ _

theorem keptNodes {holds holds' : Json → Except SelectError Bool}
    (h : ∀ node, Concurs stops (holds node) (holds' node)) (nodes : List Json) :
    AgreesUntil stops (PathQuery.keptNodes holds nodes)
      (PathQuery.keptNodes holds' nodes) := by
  unfold PathQuery.keptNodes
  induction nodes with
  | nil => exact .nil
  | cons node rest ih =>
      rw [List.filterMap_cons, List.filterMap_cons]
      rcases h node with heq | ⟨error, hstops, heq⟩
      · rw [heq]
        cases holds' node with
        | error error => exact .cons _ ih
        | ok kept =>
            cases kept with
            | false => exact ih
            | true => exact .cons _ ih
      · rw [heq]
        exact .stop hstops _ _

/-- The first items of lists that agree concur. -/
theorem firstItem {items others : List Item} (h : AgreesUntil stops items others) :
    Concurs stops (PathQuery.firstItem items) (PathQuery.firstItem others) := by
  cases h with
  | nil => exact Concurs.refl _
  | cons item _ => cases item <;> exact Concurs.refl _
  | stop hstops rest others => exact Or.inr ⟨_, hstops, rfl⟩

end AgreesUntil

/-! ## Agreement of two evaluations -/

/-- The first settings do what the others do, or fail with an error that stops the
comparison. -/
structure Settings.Concur (settings : Settings) (stops : SelectError → Prop)
    (other : Settings) : Prop where
  found : ∀ error value?,
    AgreesUntil stops (settings.found error value?) (other.found error value?)
  timedMatch : ∀ regex text,
    Concurs stops (settings.timedMatch regex text) (other.timedMatch regex text)

namespace Settings.Concur

variable {settings other : Settings}

theorem regexMatch (h : settings.Concur stops other) (given : Option RegexLiteral)
    (left right : Json) :
    Concurs stops (settings.regexMatch given left right)
      (other.regexMatch given left right) := by
  unfold Settings.regexMatch
  split
  · split
    · exact h.timedMatch _ _
    · split
      · exact h.timedMatch _ _
      · exact Concurs.refl _
  · exact Concurs.refl _

theorem holdsBetween (h : settings.Concur stops other) (operator : Operator)
    (given : Option RegexLiteral) (left right : Json) :
    Concurs stops (settings.holdsBetween operator given left right)
      (other.holdsBetween operator given left right) := by
  unfold Settings.holdsBetween
  split
  · exact Concurs.refl _
  · cases operator with
    | matchesRegex => exact h.regexMatch given left right
    | _ => exact Concurs.refl _

/-- The results of a step agree if the roots do, where it is the root, and the verdicts on
its condition. -/
theorem results (h : settings.Concur stops other) {root root' : Json} (step : Step)
    (node : Json) (hroot : step = .root → root = root')
    (hholds : ∀ condition, step = .filter condition ∨ step = .descendFilter condition →
      ∀ child, Concurs stops (condition.holds settings root child)
        (condition.holds other root' child)) :
    AgreesUntil stops (settings.results root step node) (other.results root' step node) := by
  unfold Settings.results
  split
  · rw [hroot rfl]
    exact .refl _
  · exact h.found _ _
  · exact .refl _
  · exact h.found _ _
  · exact .flatMap (fun name => h.found _ _) _
  · exact h.found _ _
  · exact h.found _ _
  · exact .refl _
  · exact h.found _ _
  · exact .flatMap (fun index => h.found _ _) _
  · exact h.found _ _
  · simp only
    split
    · exact .refl _
    · split
      · exact .refl _
      · exact h.found _ _
  · split
    · exact .refl _
    · exact h.found _ _
  · exact .refl _
  · exact .refl _
  · exact .refl _
  · exact .keptNodes (hholds _ (Or.inl rfl)) _
  · exact .keptNodes (hholds _ (Or.inr rfl)) _

end Settings.Concur

section Evaluation

variable {settings other : Settings} {root root' : Json}

/-- If two roots are the same, unless none of some parts refers to the root. -/
def RootsMatch (root root' : Json) (parts : List Part) : Prop :=
  .step .root ∈ parts → root = root'

theorem RootsMatch.mono {parts parts' : List Part} (h : RootsMatch root root' parts')
    (hsubset : parts ⊆ parts') : RootsMatch root root' parts :=
  fun hmem => h (hsubset hmem)

mutual

/-- A step yields what it yields under the other settings, up to a failure that stops.  A path
inside an operand is evaluated anew, so its steps are part of the same induction. -/
theorem Step.results_agree (h : settings.Concur stops other) (step : Step)
    (hroots : RootsMatch root root' step.parts) (node : Json) :
    AgreesUntil stops (settings.results root step node) (other.results root' step node) := by
  have hroot : step = .root → root = root' := by
    rintro rfl
    exact hroots (Step.mem_parts_self .root)
  cases step with
  | filter condition =>
      refine h.results _ node hroot fun asked hasked child => ?_
      obtain rfl : condition = asked := by simpa using hasked
      exact Condition.holds_agree h condition
        (hroots.mono (Step.parts_subset_of_asks hasked)) child
  | descendFilter condition =>
      refine h.results _ node hroot fun asked hasked child => ?_
      obtain rfl : condition = asked := by simpa using hasked
      exact Condition.holds_agree h condition
        (hroots.mono (Step.parts_subset_of_asks hasked)) child
  | _ =>
      refine h.results _ node hroot fun asked hasked => ?_
      simp at hasked

theorem Condition.holds_agree (h : settings.Concur stops other) (condition : Condition)
    (hroots : RootsMatch root root' condition.parts) (node : Json) :
    Concurs stops (condition.holds settings root node)
      (condition.holds other root' node) := by
  cases condition with
  | composite connective conditions =>
      rw [Condition.parts] at hroots
      have hinside := hroots.mono (List.subset_cons_self _ _)
      cases connective with
      | and =>
          rw [Condition.holds, Condition.holds]
          exact allHold_agree h conditions hinside node
      | or =>
          rw [Condition.holds, Condition.holds]
          exact anyHolds_agree h conditions hinside node
  | comparison operator left right =>
      rw [Condition.parts] at hroots
      have hsides := hroots.mono (List.subset_cons_self _ _)
      have hleft := hsides.mono (List.subset_append_left _ _)
      have hright := hsides.mono (List.subset_append_right _ _)
      rw [Condition.holds, Condition.holds]
      refine (Operand.first_agree h left hleft node).bind fun leftNode? => ?_
      cases leftNode? with
      | none => exact Concurs.refl _
      | some leftNode =>
          simp only
          split
          · exact Concurs.refl _
          · refine (firstRight_agree h right hright node).bind fun rightNode? => ?_
            cases rightNode? with
            | none => exact Concurs.refl _
            | some rightNode => exact h.holdsBetween _ _ _ _

theorem allHold_agree (h : settings.Concur stops other) (conditions : List Condition)
    (hroots : RootsMatch root root' (partsOfConditions conditions)) (node : Json) :
    Concurs stops (allHold settings root conditions node)
      (allHold other root' conditions node) := by
  cases conditions with
  | nil =>
      rw [allHold, allHold]
      exact Concurs.refl _
  | cons condition rest =>
      rw [partsOfConditions] at hroots
      have hfirst := hroots.mono (List.subset_append_left _ _)
      have hrest := hroots.mono (List.subset_append_right _ _)
      rw [allHold, allHold]
      refine (Condition.holds_agree h condition hfirst node).bind fun holds => ?_
      cases holds with
      | false => exact Concurs.refl _
      | true => exact allHold_agree h rest hrest node

theorem anyHolds_agree (h : settings.Concur stops other) (conditions : List Condition)
    (hroots : RootsMatch root root' (partsOfConditions conditions)) (node : Json) :
    Concurs stops (anyHolds settings root conditions node)
      (anyHolds other root' conditions node) := by
  cases conditions with
  | nil =>
      rw [anyHolds, anyHolds]
      exact Concurs.refl _
  | cons condition rest =>
      rw [partsOfConditions] at hroots
      have hfirst := hroots.mono (List.subset_append_left _ _)
      have hrest := hroots.mono (List.subset_append_right _ _)
      rw [anyHolds, anyHolds]
      refine (Condition.holds_agree h condition hfirst node).bind fun holds => ?_
      cases holds with
      | false => exact anyHolds_agree h rest hrest node
      | true => exact Concurs.refl _

theorem Operand.first_agree (h : settings.Concur stops other) (operand : Operand)
    (hroots : RootsMatch root root' operand.parts) (node : Json) :
    Concurs stops (operand.first settings root node) (operand.first other root' node) := by
  cases operand with
  | path steps =>
      rw [Operand.parts] at hroots
      have hsteps := hroots.mono (List.subset_cons_self _ _)
      rw [first_path, first_path]
      exact (resultsFrom_agree h steps hsteps (.refl [.ok node])).firstItem
  | literal value =>
      rw [Operand.first, Operand.first]
      exact Concurs.refl _
  | regex expression =>
      rw [Operand.first, Operand.first]
      exact Concurs.refl _

theorem firstRight_agree (h : settings.Concur stops other) (right : Option Operand)
    (hroots : RootsMatch root root' (partsOfRight right)) (node : Json) :
    Concurs stops (firstRight settings root right node)
      (firstRight other root' right node) := by
  cases right with
  | none =>
      rw [firstRight, firstRight]
      exact Concurs.refl _
  | some operand =>
      rw [partsOfRight] at hroots
      rw [firstRight, firstRight]
      exact Operand.first_agree h operand hroots node

theorem resultsFrom_agree (h : settings.Concur stops other) (steps : List Step)
    (hroots : RootsMatch root root' (partsOfSteps steps)) {items others : List Item}
    (hitems : AgreesUntil stops items others) :
    AgreesUntil stops (resultsFrom settings root steps items)
      (resultsFrom other root' steps others) := by
  cases steps with
  | nil => exact hitems
  | cons step rest =>
      rw [partsOfSteps] at hroots
      have hstep := hroots.mono (List.subset_append_left _ _)
      have hrest := hroots.mono (List.subset_append_right _ _)
      have hreplaced := hitems.replaceNodes (Step.results_agree h step hstep)
      rw [resultsFrom, resultsFrom]
      exact resultsFrom_agree h rest hrest hreplaced

end

/-- Under settings that concur, a path has the same eager items up to the first
failure that stops the comparison. -/
theorem eagerItems_agree (h : settings.Concur stops other) (root : Json)
    (steps : List Step) (current : Json) :
    AgreesUntil stops (eagerItems settings steps root current)
      (eagerItems other steps root current) :=
  resultsFrom_agree h steps (fun _ => rfl) (.refl [.ok current])

/-- Under settings that concur, the verdicts on a condition do. -/
theorem Condition.holds_concurs (h : settings.Concur stops other) (root : Json)
    (condition : Condition) (node : Json) :
    Concurs stops (condition.holds settings root node) (condition.holds other root node) :=
  Condition.holds_agree h condition (fun _ => rfl) node

end Evaluation

end PathQuery
