import PathQuery.Proofs.Select.Agreement
import PathQuery.Proofs.Select.Sequence

/-!
# Paths without a root

The root of a document is handed to every step and down into every condition, but only the
step that stands for it looks at it.  A path in which that step occurs at no depth depends
on the node at which it starts and on what is beneath it, and on nothing else of the
document.  Main statement: from one node such a path selects the same under any two roots,
failures included.
-/

namespace PathQuery

/-- Settings concur with themselves, and nothing stops the comparison. -/
theorem Settings.concur_self (settings : Settings) :
    settings.Concur (fun _ => False) settings where
  found _ _ := .refl _
  timedMatch _ _ := Concurs.refl _

/-- Lists that agree without a stop are equal. -/
theorem AgreesUntil.eq {items others : List Item}
    (h : AgreesUntil (fun _ => False) items others) : items = others := by
  induction h with
  | nil => rfl
  | cons item _ ih => rw [ih]
  | stop hstops _ _ => exact hstops.elim

/-- Outcomes that concur without a stop are equal. -/
theorem Concurs.eq {α : Type} {outcome other : Except SelectError α}
    (h : Concurs (fun _ => False) outcome other) : outcome = other := by
  obtain heq | ⟨_, hstops, _⟩ := h
  · exact heq
  · exact hstops.elim

section Roots

variable {settings : Settings} {root other : Json}

/-- Where the roots are the same, unless no part refers to the root, the evaluation of a
path is. -/
theorem evaluate_of_rootsMatch {steps : List Step}
    (h : RootsMatch root other (partsOfSteps steps)) (current : Json) :
    evaluate settings steps root current = evaluate settings steps other current := by
  have hagree := resultsFrom_agree settings.concur_self steps h (.refl [.ok current])
  apply LazyList.eq_of_toList_eq
  rw [toList_evaluate, toList_evaluate]
  exact hagree.eq

theorem holds_of_rootsMatch {condition : Condition}
    (h : RootsMatch root other condition.parts) (current : Json) :
    condition.holds settings root current = condition.holds settings other current :=
  (Condition.holds_agree settings.concur_self condition h current).eq

end Roots

/-- A path in which the root occurs at no depth selects the same from a node whatever the
root is: the same nodes and the same failures, each when it is asked for.  A condition
without the root has the same outcome, be it an answer or a failure. -/
theorem rootless_selection_ignores_root (settings : Settings) (current root other : Json) :
    (∀ path : Path, .step .root ∉ partsOfSteps path.steps →
      path.selectFrom settings root current = path.selectFrom settings other current) ∧
    ∀ condition : Condition, .step .root ∉ condition.parts →
      condition.holds settings root current = condition.holds settings other current := by
  constructor
  · intro path hpath
    have hmatch : RootsMatch root other (partsOfSteps path.steps) := by
      intro hroot
      exact absurd hroot hpath
    rw [Path.selectFrom, Path.selectFrom, evaluate_of_rootsMatch hmatch]
  · intro condition hcondition
    have hmatch : RootsMatch root other condition.parts := by
      intro hroot
      exact absurd hroot hcondition
    exact holds_of_rootsMatch hmatch current

/-- A filter inside the condition of a filter, under strict settings: the first item is
selected and the second one fails, under the root `null` as under the root `true`. -/
theorem rootless_selection_ignores_root_nested :
    let condition : Condition := .comparison .present (.path [.member (some "b"),
      .filter (.comparison .equals (.path []) (some (.literal .null)))]) none
    let path : Path := ⟨"$[?(@.b[?(@==null)])]", [.filter condition]⟩
    let item : Json := .object [("b", .array [.bool true, .null])]
    let current : Json := .array [item, .object []]
    let settings : Settings := { strict := true }
    .step .root ∉ partsOfSteps path.steps ∧ .step .root ∉ condition.parts ∧
    (path.selectFrom settings .null current).sequence =
      [.ok item, .error (.memberNotFound "b")] ∧
    path.selectFrom settings .null current = path.selectFrom settings (.bool true) current ∧
    condition.holds settings .null item = condition.holds settings (.bool true) item := by
  intro condition path item current settings
  have hcondition : .step .root ∉ condition.parts := by
    simp [condition, Condition.parts, Operand.parts, partsOfSteps, partsOfRight, Step.parts]
  have hpath : .step .root ∉ partsOfSteps path.steps := by
    simpa [path, partsOfSteps, Step.parts] using hcondition
  have hitems : (path.selectFrom settings .null current).sequence =
      [.ok item, .error (.memberNotFound "b")] := by
    rw [sequence_selectFrom]
    rfl
  refine ⟨hpath, hcondition, hitems, ?_, ?_⟩
  · exact (rootless_selection_ignores_root settings current .null (.bool true)).1 path hpath
  · exact (rootless_selection_ignores_root settings item .null (.bool true)).2 condition
      hcondition

end PathQuery
