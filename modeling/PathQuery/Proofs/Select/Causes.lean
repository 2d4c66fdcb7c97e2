import PathQuery.Proofs.Path.Parts
import PathQuery.Proofs.Select.Sequence

/-!
# Causes of failures

Where the settings are lenient, a missing node is passed over.  What may still fail
is a slice with a stride of zero, a match that exceeds the limit, and a match
against a text that is no regular expression.  Main statement: each failure of a
lenient selection has such a cause in its path or in its settings.
-/

namespace PathQuery

/-- What in the settings or among the parts of a path causes a failure where missing
nodes are passed over. -/
inductive Cause (settings : Settings) (parts : List Part) : SelectError → Prop
  | zeroStride {start stop : Option Int64}
      (h : .step (.slice start stop (some 0)) ∈ parts) :
      Cause settings parts .zeroStride
  | regexTimeout {pattern : String} {limit : Nat} (h : settings.regexLimit = some limit) :
      Cause settings parts (.regexTimeout pattern limit)
  | invalidRegex {left : Operand} {right : Option Operand} {text : String}
      {reason : RegexFault}
      (h : .condition (.comparison .matchesRegex left right) ∈ parts)
      (hright : ∀ literal, right ≠ some (.regex literal)) :
      Cause settings parts (.invalidRegex text reason)

namespace Cause

variable {settings : Settings} {parts parts' : List Part} {error : SelectError}

theorem mono (hsubset : parts ⊆ parts') (h : Cause settings parts error) :
    Cause settings parts' error := by
  cases h with
  | zeroStride h => exact .zeroStride (hsubset h)
  | regexTimeout h => exact .regexTimeout h
  | invalidRegex h hright => exact .invalidRegex (hsubset h) hright

/-- A path without the three features causes no failure. -/
theorem absurd_of_no_feature
    (hstride : ∀ start stop, .step (.slice start stop (some 0)) ∉ parts)
    (hlimit : settings.regexLimit = none)
    (hliteral : ∀ left right, .condition (.comparison .matchesRegex left right) ∈ parts →
      ∃ literal, right = some (.regex literal))
    (h : Cause settings parts error) : False := by
  cases h with
  | zeroStride h => exact hstride _ _ h
  | regexTimeout h =>
      rw [hlimit] at h
      cases h
  | invalidRegex h hright =>
      obtain ⟨literal, hliteral⟩ := hliteral _ _ h
      exact hright literal hliteral

end Cause

/-! ## Matches -/

section Matches

variable {settings : Settings} {error : SelectError}

theorem timedMatch_error {regex : RegexLiteral} {text : String}
    (h : settings.timedMatch regex text = .error error) :
    ∃ limit, settings.regexLimit = some limit ∧ error = .regexTimeout regex.pattern limit := by
  unfold Settings.timedMatch at h
  split at h
  · rename_i limit hexceeded
    cases h
    exact ⟨limit, (Option.filter_eq_some_iff.1 hexceeded).1, rfl⟩
  · cases h

/-- A comparison fails by a time limit, or because a text that is matched against is
no regular expression. -/
theorem holdsBetween_error {operator : Operator} {given : Option RegexLiteral}
    {left right : Json}
    (h : settings.holdsBetween operator given left right = .error error) :
    (∃ pattern limit, settings.regexLimit = some limit ∧
      error = .regexTimeout pattern limit) ∨
    (operator = .matchesRegex ∧ given = none ∧
      ∃ text reason, error = .invalidRegex text reason) := by
  unfold Settings.holdsBetween at h
  split at h
  · cases h
  · cases operator with
    | matchesRegex =>
        simp only [Settings.regexMatch] at h
        split at h
        · split at h
          · obtain ⟨limit, hlimit, rfl⟩ := timedMatch_error h
            exact Or.inl ⟨_, limit, hlimit, rfl⟩
          · split at h
            · obtain ⟨limit, hlimit, rfl⟩ := timedMatch_error h
              exact Or.inl ⟨_, limit, hlimit, rfl⟩
            · cases h
              exact Or.inr ⟨rfl, rfl, _, _, rfl⟩
        · cases h
    | _ => cases h

theorem regex?_eq_none {right : Option Operand} (h : Operand.regex? right = none)
    (literal : RegexLiteral) : right ≠ some (.regex literal) := by
  rintro rfl
  cases h

end Matches

/-! ## Steps, conditions and operands -/

section Lenient

variable {settings : Settings} {error : SelectError}

theorem error_not_mem_found (hlenient : settings.strict = false) {missing : SelectError}
    {value? : Option Json} : .error error ∉ settings.found missing value? := by
  cases value? with
  | none => simp [Settings.found, hlenient]
  | some value => simp [Settings.found]

theorem error_mem_keptNodes {holds : Json → Except SelectError Bool} {nodes : List Json}
    (h : .error error ∈ keptNodes holds nodes) : ∃ node, holds node = .error error := by
  obtain ⟨node, -, hnode⟩ := List.mem_filterMap.1 h
  refine ⟨node, ?_⟩
  split at hnode
  · cases hnode
  · cases hnode
  · rename_i found hfound
    cases hnode
    exact hfound

theorem error_mem_replaceNodes {results : Json → List Item} {items : List Item}
    (h : .error error ∈ replaceNodes results items) :
    .error error ∈ items ∨ ∃ node, .error error ∈ results node := by
  obtain ⟨item, hitem, herror⟩ := List.mem_flatMap.1 h
  cases item with
  | ok node => exact Or.inr ⟨node, herror⟩
  | error found =>
      rw [List.mem_singleton] at herror
      rw [herror]
      exact Or.inl hitem

theorem firstItem_error {items : List Item} (h : firstItem items = .error error) :
    .error error ∈ items := by
  cases items with
  | nil => cases h
  | cons item rest =>
      cases item with
      | ok node => cases h
      | error found =>
          cases h
          exact List.mem_cons_self

/-- A step fails by itself only for a stride of zero, and otherwise where its
condition does. -/
theorem error_mem_results (hlenient : settings.strict = false) {root node : Json}
    {step : Step} (h : .error error ∈ settings.results root step node) :
    (error = .zeroStride ∧ ∃ start stop, step = .slice start stop (some 0)) ∨
    ∃ condition, (step = .filter condition ∨ step = .descendFilter condition) ∧
      ∃ child, condition.holds settings root child = .error error := by
  unfold Settings.results at h
  have hfound : ∀ {missing value?}, .error error ∈ settings.found missing value? → False :=
    fun herror => error_not_mem_found hlenient herror
  have hnodes : ∀ {nodes : List Json}, .error error ∈ nodes.map (Except.ok : Json → Item) →
      False := by
    intro nodes herror
    simp at herror
  split at h
  · simp at h
  · exact (hfound h).elim
  · simp at h
  · exact (hfound h).elim
  · obtain ⟨name, -, herror⟩ := List.mem_flatMap.1 h
    exact (hfound herror).elim
  · exact (hfound h).elim
  · exact (hfound h).elim
  · exact (hnodes h).elim
  · exact (hfound h).elim
  · obtain ⟨index, -, herror⟩ := List.mem_flatMap.1 h
    exact (hfound herror).elim
  · exact (hfound h).elim
  · rename_i start stop stride items
    simp only at h
    split at h
    · rename_i hzero
      subst hzero
      rw [List.mem_singleton] at h
      cases h
      exact Or.inl ⟨rfl, start, stop, rfl⟩
    · split at h
      · exact (hnodes h).elim
      · exact (hfound h).elim
  · rename_i start stop stride _
    split at h
    · rename_i hzero
      subst hzero
      rw [List.mem_singleton] at h
      cases h
      exact Or.inl ⟨rfl, start, stop, rfl⟩
    · exact (hfound h).elim
  · exact (hnodes h).elim
  · exact (hnodes h).elim
  · exact (hnodes h).elim
  · exact Or.inr ⟨_, Or.inl rfl, error_mem_keptNodes h⟩
  · exact Or.inr ⟨_, Or.inr rfl, error_mem_keptNodes h⟩

/-- A failure of two actions in turn is one of the first or of the second one. -/
theorem bind_error {α β : Type} {outcome : Except SelectError α}
    {continuation : α → Except SelectError β}
    (h : outcome >>= continuation = .error error) :
    outcome = .error error ∨ ∃ value, continuation value = .error error := by
  cases outcome with
  | error found =>
      cases h
      exact Or.inl rfl
  | ok value => exact Or.inr ⟨value, h⟩

mutual

/-- Each failure of a step has its cause among the parts of the step, those of the conditions
and operands that it asks included. -/
theorem Step.cause_of_mem_results (hlenient : settings.strict = false) (root : Json)
    (step : Step) (node : Json) (h : .error error ∈ settings.results root step node) :
    Cause settings step.parts error := by
  rcases error_mem_results hlenient h with ⟨rfl, start, stop, rfl⟩ | ⟨asked, hasked, hfailed⟩
  · exact .zeroStride (Step.mem_parts_self _)
  · obtain ⟨child, hchild⟩ := hfailed
    cases step with
    | filter condition =>
        obtain rfl : condition = asked := by simpa using hasked
        exact (Condition.cause_of_holds hlenient root condition child hchild).mono
          (Step.parts_subset_of_asks hasked)
    | descendFilter condition =>
        obtain rfl : condition = asked := by simpa using hasked
        exact (Condition.cause_of_holds hlenient root condition child hchild).mono
          (Step.parts_subset_of_asks hasked)
    | _ => simp at hasked

theorem Condition.cause_of_holds (hlenient : settings.strict = false) (root : Json)
    (condition : Condition) (node : Json)
    (h : condition.holds settings root node = .error error) :
    Cause settings condition.parts error := by
  cases condition with
  | composite connective conditions =>
      have hparts : Cause settings (partsOfConditions conditions) error := by
        cases connective with
        | and =>
            rw [Condition.holds] at h
            exact cause_of_allHold hlenient root conditions node h
        | or =>
            rw [Condition.holds] at h
            exact cause_of_anyHolds hlenient root conditions node h
      rw [Condition.parts]
      exact hparts.mono (List.subset_cons_self _ _)
  | comparison operator left right =>
      have hself := Condition.mem_parts_self (.comparison operator left right)
      rw [Condition.parts] at hself ⊢
      rw [Condition.holds] at h
      rcases bind_error h with hleft | ⟨leftNode?, h⟩
      · refine (Operand.cause_of_first hlenient root left node hleft).mono ?_
        intro part hpart
        exact List.mem_cons_of_mem _ (List.mem_append_left _ hpart)
      · cases leftNode? with
        | none => cases h
        | some leftNode =>
            simp only at h
            split at h
            · cases h
            · rcases bind_error h with hright | ⟨rightNode?, h⟩
              · refine (cause_of_firstRight hlenient root right node hright).mono ?_
                intro part hpart
                exact List.mem_cons_of_mem _ (List.mem_append_right _ hpart)
              · cases rightNode? with
                | none => cases h
                | some rightNode =>
                    rcases holdsBetween_error h with
                      ⟨pattern, limit, hlimit, rfl⟩ | ⟨rfl, hgiven, text, reason, rfl⟩
                    · exact .regexTimeout hlimit
                    · exact .invalidRegex hself (regex?_eq_none hgiven)

theorem cause_of_allHold (hlenient : settings.strict = false) (root : Json)
    (conditions : List Condition) (node : Json)
    (h : allHold settings root conditions node = .error error) :
    Cause settings (partsOfConditions conditions) error := by
  cases conditions with
  | nil =>
      rw [allHold] at h
      cases h
  | cons condition rest =>
      rw [allHold] at h
      rw [partsOfConditions]
      rcases bind_error h with hfirst | ⟨holds, h⟩
      · exact (Condition.cause_of_holds hlenient root condition node hfirst).mono
          (List.subset_append_left _ _)
      · cases holds with
        | false => cases h
        | true =>
            exact (cause_of_allHold hlenient root rest node h).mono
              (List.subset_append_right _ _)

theorem cause_of_anyHolds (hlenient : settings.strict = false) (root : Json)
    (conditions : List Condition) (node : Json)
    (h : anyHolds settings root conditions node = .error error) :
    Cause settings (partsOfConditions conditions) error := by
  cases conditions with
  | nil =>
      rw [anyHolds] at h
      cases h
  | cons condition rest =>
      rw [anyHolds] at h
      rw [partsOfConditions]
      rcases bind_error h with hfirst | ⟨holds, h⟩
      · exact (Condition.cause_of_holds hlenient root condition node hfirst).mono
          (List.subset_append_left _ _)
      · cases holds with
        | true => cases h
        | false =>
            exact (cause_of_anyHolds hlenient root rest node h).mono
              (List.subset_append_right _ _)

theorem Operand.cause_of_first (hlenient : settings.strict = false) (root : Json)
    (operand : Operand) (node : Json)
    (h : operand.first settings root node = .error error) :
    Cause settings operand.parts error := by
  cases operand with
  | path steps =>
      rw [first_path] at h
      rw [Operand.parts]
      rcases cause_of_mem_resultsFrom hlenient root steps [.ok node] (firstItem_error h) with
        hitem | hcause
      · simp at hitem
      · exact hcause.mono (List.subset_cons_self _ _)
  | literal value =>
      rw [Operand.first] at h
      cases h
  | regex expression =>
      rw [Operand.first] at h
      cases h

theorem cause_of_firstRight (hlenient : settings.strict = false) (root : Json)
    (right : Option Operand) (node : Json)
    (h : firstRight settings root right node = .error error) :
    Cause settings (partsOfRight right) error := by
  cases right with
  | none =>
      rw [firstRight] at h
      cases h
  | some operand =>
      rw [firstRight] at h
      rw [partsOfRight]
      exact Operand.cause_of_first hlenient root operand node h

theorem cause_of_mem_resultsFrom (hlenient : settings.strict = false) (root : Json)
    (steps : List Step) (items : List Item)
    (h : .error error ∈ resultsFrom settings root steps items) :
    .error error ∈ items ∨ Cause settings (partsOfSteps steps) error := by
  cases steps with
  | nil => exact Or.inl h
  | cons step rest =>
      rw [resultsFrom] at h
      rw [partsOfSteps]
      rcases cause_of_mem_resultsFrom hlenient root rest _ h with hitem | hcause
      · rcases error_mem_replaceNodes hitem with hearlier | ⟨node, hnode⟩
        · exact Or.inl hearlier
        · exact Or.inr ((Step.cause_of_mem_results hlenient root step node hnode).mono
            (List.subset_append_left _ _))
      · exact Or.inr (hcause.mono (List.subset_append_right _ _))

end

end Lenient

theorem error_mem_of_mem_untilFailure {items : List Item} {error : SelectError}
    (h : .error error ∈ untilFailure items) : .error error ∈ items := by
  induction items with
  | nil => exact h
  | cons item rest ih =>
      cases item with
      | ok node =>
          rw [untilFailure, List.mem_cons] at h
          rcases h with h | h
          · cases h
          · exact List.mem_cons_of_mem _ (ih h)
      | error found =>
          rw [untilFailure, List.mem_singleton] at h
          rw [h]
          exact List.mem_cons_self

/-- Under lenient settings a selection and a condition fail only by a stride of zero,
a time limit or a text that is no regular expression, and only if the path or the
condition has such a stride at some depth, a limit is set, or some match in it has a
right operand that is no literal of a regular expression.  With none of the three a
selection never fails. -/
theorem lenient_failures_have_causes (path : Path) (settings : Settings)
    (root current : Json) :
    let items := (path.selectFrom settings.leniently root current).sequence
    let parts := partsOfSteps path.steps
    (∀ error, .error error ∈ items → Cause settings parts error) ∧
    (∀ (condition : Condition) error,
      condition.holds settings.leniently root current = .error error →
        Cause settings condition.parts error) ∧
    ((∀ start stop, .step (.slice start stop (some 0)) ∉ parts) →
      settings.regexLimit = none →
      (∀ left right, .condition (.comparison .matchesRegex left right) ∈ parts →
        ∃ literal, right = some (.regex literal)) →
      ∀ error, .error error ∉ items) := by
  intro items parts
  have hsettings : ∀ {parts error}, Cause settings.leniently parts error →
      Cause settings parts error := by
    intro parts error hcause
    cases hcause with
    | zeroStride h => exact .zeroStride h
    | regexTimeout h => exact .regexTimeout h
    | invalidRegex h hright => exact .invalidRegex h hright
  have hcauses : ∀ error, .error error ∈ items → Cause settings parts error := by
    intro error herror
    rw [show items = _ from sequence_selectFrom _ _ _ _] at herror
    rcases cause_of_mem_resultsFrom rfl root path.steps [.ok current]
      (error_mem_of_mem_untilFailure herror) with hitem | hcause
    · simp at hitem
    · exact hsettings hcause
  refine ⟨hcauses, ?_, ?_⟩
  · intro condition error herror
    exact hsettings (Condition.cause_of_holds rfl root condition current herror)
  · intro hstride hlimit hliteral error herror
    exact (hcauses error herror).absurd_of_no_feature hstride hlimit hliteral

end PathQuery
