import PathQuery.Proofs.Select.Sequence

/-!
# Unions of single steps

A step to several elements or members looks them up in a loop of its own, and a step to one
of them is a case of its own.  Main statement: up to the first failure a union yields what
its single steps yield one after the other; only what a union of members says of a node that
is no object names all of its members.
-/

namespace PathQuery

section Misses

variable {settings : Settings}

/-- Of several things that are not there the first one is missed, if any is. -/
theorem untilFailure_found_none {α : Type} (error : α → SelectError) (key : α) (keys : List α) :
    untilFailure ((key :: keys).flatMap fun key => settings.found (error key) none) =
      settings.found (error key) none := by
  by_cases hstrict : settings.strict = true
  · simp only [found_none_of_strict hstrict, List.flatMap_cons, List.singleton_append,
      untilFailure]
  · have hlenient := Bool.eq_false_iff.2 hstrict
    have hnone : (key :: keys).flatMap (fun key => settings.found (error key) none) = [] :=
      List.flatMap_eq_nil_iff.2 fun key _ => found_none_of_lenient hlenient (error key)
    rw [hnone, found_none_of_lenient hlenient, untilFailure]

/-- A miss alone is cut nowhere. -/
theorem untilFailure_miss (error : SelectError) :
    untilFailure (settings.found error none) = settings.found error none := by
  by_cases hstrict : settings.strict = true
  · rw [found_none_of_strict hstrict, untilFailure]
  · rw [found_none_of_lenient (Bool.eq_false_iff.2 hstrict), untilFailure]

end Misses

section Steps

variable (settings : Settings) (root : Json) {node : Json}

theorem results_elements_of_array (h : node.kind = .array) (indices : List Int64) :
    settings.results root (.elements indices) node =
      indices.flatMap fun index => settings.results root (.element (some index)) node := by
  cases node with
  | array items => simp only [Settings.results]
  | _ => cases h

theorem results_members_of_object (h : node.kind = .object) (names : List String) :
    settings.results root (.members names) node =
      names.flatMap fun name => settings.results root (.member (some name)) node := by
  cases node with
  | object members => simp only [Settings.results]
  | _ => cases h

/-- A node that is no array has no element, whichever is looked for. -/
theorem results_elements_of_ne_array (h : node.kind ≠ .array) :
    (∀ index, settings.results root (.element index) node =
        settings.found (.indexNotValid index node.kind) none) ∧
      ∀ indices, settings.results root (.elements indices) node =
        settings.found (.indexNotValid indices.head? node.kind) none := by
  cases node with
  | array items => exact absurd rfl h
  | _ => constructor <;> intro index <;> simp only [Settings.results]

/-- A node that is no object has no member, whichever is looked for. -/
theorem results_members_of_ne_object (h : node.kind ≠ .object) :
    (∀ name, settings.results root (.member name) node =
        settings.found (.memberNotValid name node.kind) none) ∧
      ∀ names, settings.results root (.members names) node =
        settings.found (.membersNotValid names node.kind) none := by
  cases node with
  | object members => exact absurd rfl h
  | _ => constructor <;> intro name <;> simp only [Settings.results]

end Steps

/-- Unions are made of single steps.  Up to the first failure, a step to several elements
yields for every node what the steps to each of them do, one after the other.  So does a step
to several members, where missing nodes are passed over or the node is an object; otherwise it
fails with all names where the single steps fail with the first one. -/
theorem union_eq_single_steps (settings : Settings) (root node : Json) :
    let items := fun step => (Step.outputs settings root step node).toList
    (∀ index indices, untilFailure (items (.elements (index :: indices))) =
      untilFailure ((index :: indices).flatMap fun index => items (.element (some index)))) ∧
    (settings.strict = false ∨ node.kind = .object → ∀ names,
      untilFailure (items (.members names)) =
        untilFailure (names.flatMap fun name => items (.member (some name)))) ∧
    (settings.strict = true → node.kind ≠ .object → ∀ name names,
      items (.members (name :: names)) =
          [.error (.membersNotValid (name :: names) node.kind)] ∧
        untilFailure ((name :: names).flatMap fun name => items (.member (some name))) =
          [.error (.memberNotValid (some name) node.kind)]) := by
  intro items
  simp only [items, toList_outputs]
  refine ⟨?_, ?_, ?_⟩
  · intro index indices
    by_cases harray : node.kind = .array
    · rw [results_elements_of_array settings root harray]
    · obtain ⟨hsingle, hunion⟩ := results_elements_of_ne_array settings root harray
      simp only [hsingle, hunion, List.head?_cons]
      rw [untilFailure_miss]
      exact (untilFailure_found_none (fun index => .indexNotValid (some index) node.kind) index
        indices).symm
  · intro h names
    by_cases hobject : node.kind = .object
    · rw [results_members_of_object settings root hobject]
    · have hlenient := h.resolve_right hobject
      obtain ⟨hsingle, hunion⟩ := results_members_of_ne_object settings root hobject
      simp only [hsingle, hunion, found_none_of_lenient hlenient]
      exact congrArg untilFailure (List.flatMap_eq_nil_iff.2 fun _ _ => rfl).symm
  · intro hstrict hobject name names
    obtain ⟨hsingle, hunion⟩ := results_members_of_ne_object settings root hobject
    simp only [hsingle, hunion]
    constructor
    · exact found_none_of_strict hstrict _
    · rw [untilFailure_found_none (fun name => .memberNotValid (some name) node.kind)]
      exact found_none_of_strict hstrict _

/-- Where a missing node is a failure, a union fails with the first name that an object lacks,
and with all of its names for a node that is no object. -/
theorem union_eq_single_steps_strict :
    untilFailure (Step.outputs (Settings.strictly {}) .null (.members ["a", "c", "b"])
        (.object [("a", .bool true), ("b", .null)])).toList =
      [.ok (.bool true), .error (.memberNotFound "c")] ∧
    (Step.outputs (Settings.strictly {}) .null (.members ["a", "c", "b"]) .null).toList =
      [.error (.membersNotValid ["a", "c", "b"] .null)] := by
  constructor
  · rw [(union_eq_single_steps (Settings.strictly {}) .null
      (.object [("a", .bool true), ("b", .null)])).2.1 (Or.inr rfl)]
    simp only [toList_outputs, Settings.results]
    rfl
  · exact ((union_eq_single_steps (Settings.strictly {}) .null .null).2.2 rfl
      Kind.noConfusion "a" ["c", "b"]).1

end PathQuery
