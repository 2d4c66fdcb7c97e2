import PathQuery.Proofs.Select.Sequence

/-!
# Paths one behind the other

The steps of a path may be cut in two anywhere.  The evaluation folds them from the
left, so this module regroups it: the items of the first half come first, and each of
their nodes is where the second half starts.  Main statement: selecting with one path
and then from each node with another is selecting with the steps of both, up to the
first failure, which is the same.
-/

namespace PathQuery

/-! ## Regrouping the steps -/

section Regrouping

variable (results : Json → List Item)

theorem replaceNodes_node (node : Json) (items : List Item) :
    replaceNodes results (.ok node :: items) = results node ++ replaceNodes results items :=
  List.flatMap_cons

theorem replaceNodes_failure (error : SelectError) (items : List Item) :
    replaceNodes results (.error error :: items) =
      .error error :: replaceNodes results items :=
  List.flatMap_cons

theorem replaceNodes_append (items more : List Item) :
    replaceNodes results (items ++ more) =
      replaceNodes results items ++ replaceNodes results more :=
  List.flatMap_append

/-- Replacing each node by itself changes nothing. -/
theorem replaceNodes_self (items : List Item) :
    replaceNodes (fun node => [.ok node]) items = items := by
  induction items with
  | nil => rfl
  | cons item rest ih =>
      cases item with
      | ok node => rw [replaceNodes_node, ih, List.singleton_append]
      | error error => rw [replaceNodes_failure, ih]

/-- Replacing nodes twice is replacing each by what the second function makes of its
results. -/
theorem replaceNodes_replaceNodes (others : Json → List Item) (items : List Item) :
    replaceNodes others (replaceNodes results items) =
      replaceNodes (fun node => replaceNodes others (results node)) items := by
  induction items with
  | nil => rfl
  | cons item rest ih =>
      cases item with
      | ok node => rw [replaceNodes_node, replaceNodes_append, ih, replaceNodes_node]
      | error error =>
          rw [replaceNodes_failure, replaceNodes_failure, ih, replaceNodes_failure]

end Regrouping

section Steps

variable (settings : Settings) (root : Json)

/-- The steps of a path give every item of a list the results that they have for it
alone. -/
theorem resultsFrom_eq_replaceNodes (steps : List Step) (items : List Item) :
    resultsFrom settings root steps items =
      replaceNodes (eagerItems settings steps root) items := by
  induction steps generalizing items with
  | nil =>
      have hself : eagerItems settings [] root = fun node => [.ok node] := rfl
      rw [hself, replaceNodes_self, resultsFrom]
  | cons step rest ih =>
      rw [resultsFrom, ih, replaceNodes_replaceNodes]
      congr 1
      funext node
      rw [eagerItems, resultsFrom, ih, replaceNodes_node]
      exact congrArg _ (List.append_nil _).symm

theorem resultsFrom_append (steps more : List Step) (items : List Item) :
    resultsFrom settings root (steps ++ more) items =
      resultsFrom settings root more (resultsFrom settings root steps items) := by
  induction steps generalizing items with
  | nil => rfl
  | cons step rest ih => rw [List.cons_append, resultsFrom, ih, resultsFrom]

/-- The second half of a path starts at each node of the first half. -/
theorem eagerItems_append (steps more : List Step) (current : Json) :
    eagerItems settings (steps ++ more) root current =
      replaceNodes (eagerItems settings more root) (eagerItems settings steps root current) := by
  rw [eagerItems, resultsFrom_append, resultsFrom_eq_replaceNodes]
  rfl

end Steps

/-! ## The first failure -/

/-- What stands behind the first failure of some items is never reached. -/
theorem untilFailure_append_left (items more : List Item) :
    untilFailure (untilFailure items ++ more) = untilFailure (items ++ more) := by
  induction items with
  | nil => rfl
  | cons item rest ih =>
      cases item with
      | ok node =>
          rw [untilFailure, List.cons_append, untilFailure, ih, List.cons_append, untilFailure]
      | error error => rfl

theorem untilFailure_append_right (items more : List Item) :
    untilFailure (items ++ untilFailure more) = untilFailure (items ++ more) := by
  induction items with
  | nil =>
      have htwice := untilFailure_append_left more []
      rwa [List.append_nil, List.append_nil] at htwice
  | cons item rest ih =>
      cases item with
      | ok node => rw [List.cons_append, untilFailure, ih, List.cons_append, untilFailure]
      | error error => rfl

/-- The first failure is found in the same place if each list of results, and the list
of the nodes, is cut behind its own first failure before. -/
theorem untilFailure_replaceNodes (results : Json → List Item) (items : List Item) :
    untilFailure (replaceNodes (fun node => untilFailure (results node)) (untilFailure items)) =
      untilFailure (replaceNodes results items) := by
  induction items with
  | nil => rfl
  | cons item rest ih =>
      cases item with
      | ok node =>
          rw [untilFailure, replaceNodes_node, replaceNodes_node, untilFailure_append_left,
            ← untilFailure_append_right, ih, untilFailure_append_right]
      | error error => rfl

/-- Evaluation composes.  The items of two paths one behind the other are the items of
the second one from each node of the first, with the failures of the first in their
places; and a selection with the steps of both hands out what selecting with the first
and then from each node with the second does, up to the first failure. -/
theorem selection_of_append (first last : Path) (text : String) (settings : Settings)
    (root current : Json) :
    let whole : Path := ⟨text, first.steps ++ last.steps⟩
    let chained := replaceNodes (fun node => (last.selectFrom settings root node).sequence)
      (first.selectFrom settings root current).sequence
    (evaluate settings whole.steps root current).toList =
      replaceNodes (fun node => (evaluate settings last.steps root node).toList)
        (evaluate settings first.steps root current).toList ∧
    (whole.selectFrom settings root current).sequence = untilFailure chained ∧
    ∀ calls, (whole.selectFrom settings root current).answer calls =
      (untilFailure chained)[calls]? := by
  intro whole chained
  have heager := eagerItems_append settings root first.steps last.steps current
  have hsequence : (whole.selectFrom settings root current).sequence = untilFailure chained := by
    simp only [chained, sequence_selectFrom]
    rw [untilFailure_replaceNodes, heager]
  refine ⟨?_, hsequence, ?_⟩
  · simp only [toList_evaluate]
    exact heager
  · intro calls
    rw [← hsequence, Selection.getElem?_sequence]

end PathQuery
