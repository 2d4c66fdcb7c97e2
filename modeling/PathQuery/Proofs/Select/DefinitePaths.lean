import PathQuery.Proofs.Select.Composition
import PathQuery.Proofs.Select.DescentOrder

/-!
# Definite paths

Some steps take a node to one node at most, and what they miss is one failure at most.  A
path of such steps keeps to that, since a failure is passed through in the place of its node.
Main statement: a definite path yields one item at most, so selecting at most one node and
selecting everything have the same outcome.
-/

namespace PathQuery

/-- The items of a definite path: a node, a failure, or nothing.  The failure is never that
there are several nodes. -/
inductive Definite : List Item → Prop
  | nothing : Definite []
  | node (node : Json) : Definite [.ok node]
  | failure {error : SelectError} : error ≠ .multipleResults → Definite [.error error]

namespace Definite

variable {items : List Item}

theorem length_le_one (h : Definite items) : items.length ≤ 1 := by
  cases h with
  | nothing => exact Nat.zero_le 1
  | node node => exact Nat.le_refl 1
  | failure _ => exact Nat.le_refl 1

/-- What is looked up is there, or it is missed. -/
theorem found (settings : Settings) {error : SelectError} (h : error ≠ .multipleResults)
    (value? : Option Json) : Definite (settings.found error value?) := by
  cases value? with
  | some value => exact .node value
  | none =>
    by_cases hstrict : settings.strict = true
    · rw [found_none_of_strict hstrict]
      exact .failure h
    · rw [found_none_of_lenient (Bool.eq_false_iff.2 hstrict)]
      exact .nothing

theorem replaceNodes {results : Json → List Item} (hresults : ∀ node, Definite (results node))
    (h : Definite items) : Definite (replaceNodes results items) := by
  cases h with
  | nothing => exact .nothing
  | node node =>
    rw [replaceNodes_node]
    simpa [PathQuery.replaceNodes] using hresults node
  | failure herror => exact .failure herror

end Definite

section Steps

variable (settings : Settings) (root : Json)

/-- A step that is none to several nodes has definite results. -/
theorem definite_results {step : Step} (h : step.isMulti = false) (node : Json) :
    Definite (settings.results root step node) := by
  cases step with
  | root => exact .node root
  | member name =>
    cases name with
    | none => cases h
    | some name =>
      cases node with
      | object members => exact .found settings SelectError.noConfusion _
      | _ => exact .found settings SelectError.noConfusion none
  | element index =>
    cases index with
    | none => cases h
    | some index =>
      cases node with
      | array items => exact .found settings SelectError.noConfusion _
      | _ => exact .found settings SelectError.noConfusion none
  | _ => cases h

/-- Each step keeps the items definite, and so do all of them. -/
theorem definite_resultsFrom {steps : List Step} (h : ∀ step ∈ steps, step.isMulti = false)
    {items : List Item} (hitems : Definite items) :
    Definite (resultsFrom settings root steps items) := by
  induction steps generalizing items with
  | nil => exact hitems
  | cons step rest ih =>
    obtain ⟨hstep, hrest⟩ := List.forall_mem_cons.1 h
    rw [resultsFrom]
    apply ih hrest
    exact hitems.replaceNodes (definite_results settings root hstep)

end Steps

/-- Where the items are definite, selecting at most one node has the outcome of selecting
everything. -/
theorem selectAll_of_definite {path : Path} {settings : Settings} {root : Json}
    (h : Definite (eagerItems settings path.steps root root)) :
    path.selectAll settings root = (path.selectOne settings root).map Option.toList ∧
      path.selectOne settings root ≠ .error .multipleResults := by
  have hone := path.selectOne_eq settings root
  generalize hitems : eagerItems settings path.steps root root = items at h hone
  cases h with
  | nothing =>
    rw [(path.selectAll_eq_ok_iff settings root []).2 hitems, hone]
    exact ⟨rfl, by simp [oneOf]⟩
  | node node =>
    rw [(path.selectAll_eq_ok_iff settings root [node]).2 hitems, hone]
    exact ⟨rfl, by simp [oneOf]⟩
  | @failure error herror =>
    rw [(path.selectAll_eq_error_iff settings root error).2 ⟨[], [], hitems⟩, hone]
    exact ⟨rfl, fun hsame => herror (Except.error.inj hsame)⟩

/-- A path without steps to several nodes is definite.  From every node and under all settings
it yields at most one item, and no answer of a selection but the first one is an item.  So
selecting at most one node never finds several; it has a node, nothing or a failure exactly
where selecting everything has that node alone, no node or that failure. -/
theorem definite_path_selects_at_most_one {path : Path}
    (h : ∀ step ∈ path.steps, step.isMulti = false) :
    (∀ settings root current,
      (evaluate settings path.steps root current).toList.length ≤ 1 ∧
        ∀ calls, (path.selectFrom settings root current).answer (calls + 1) = none) ∧
    ∀ settings root,
      path.selectOne settings root ≠ .error .multipleResults ∧
      (∀ node, path.selectOne settings root = .ok (some node) ↔
        path.selectAll settings root = .ok [node]) ∧
      (path.selectOne settings root = .ok none ↔ path.selectAll settings root = .ok []) ∧
      ∀ error, path.selectOne settings root = .error error ↔
        path.selectAll settings root = .error error := by
  have hdefinite : ∀ settings root current,
      Definite (eagerItems settings path.steps root current) :=
    fun settings root current => definite_resultsFrom settings root h (.node current)
  constructor
  · intro settings root current
    have hlength := (hdefinite settings root current).length_le_one
    constructor
    · rwa [toList_evaluate]
    · intro calls
      have hcut := length_untilFailure_le (eagerItems settings path.steps root current)
      rw [← Selection.getElem?_sequence, sequence_selectFrom, List.getElem?_eq_none_iff]
      omega
  · intro settings root
    obtain ⟨hall, hone⟩ := selectAll_of_definite (hdefinite settings root root)
    rw [hall]
    refine ⟨hone, ?_⟩
    cases path.selectOne settings root with
    | error error => simp [Except.map]
    | ok found => cases found <;> simp [Except.map]

/-- An element of a member is found, and it is the only node. -/
theorem definite_path_selects_at_most_one_element :
    let path : Path := ⟨"$.a[1]", [.member (some "a"), .element (some 1)]⟩
    (∀ step ∈ path.steps, step.isMulti = false) ∧
      path.selectOne {} (.object [("a", .array [.null, .bool true])]) =
        .ok (some (.bool true)) := by
  intro path
  have hsteps : ∀ step ∈ path.steps, step.isMulti = false := by
    simp [path, Step.isMulti]
  refine ⟨hsteps, ?_⟩
  rw [((definite_path_selects_at_most_one hsteps).2 _ _).2.1]
  rw [path.selectAll_eq_ok_iff]
  rfl

end PathQuery
