import PathQuery.Proofs.Select.Places
import PathQuery.Proofs.Select.Sequence

/-!
# What a descent yields

A descent walks a stack of levels.  Here its items are told by the places of the
document that it starts from: the node at every place, the nodes at the places with
certain names, or the nodes for which a condition holds.  Main statement: in each case
the items come in the order of the places, one for each place in question, and a walk
ends after as many items as the document has nodes, at the latest.
-/

namespace PathQuery

/-! ## Nodes by their places -/

namespace Json

theorem map_selfAndBeneath (node : Json) :
    node.selfAndBeneath.map some = node.places.map node.nodeAt? := by
  have hwalk := congrArg (List.map (Option.map (·.2))) node.map_entryAt?
  rw [List.map_map, List.map_map] at hwalk
  rw [selfAndBeneath, ← List.map_cons (f := (·.2)) (a := ((none, node) : Entry)), List.map_map]
  exact hwalk.symm

theorem map_namedBeneath (accepts : String → Bool) (node : Json) :
    (node.namedBeneath accepts).map some =
      (node.places.filter fun place => (node.nameAt? place).any accepts).map node.nodeAt? := by
  have hnamed : node.namedBeneath accepts =
      ((((none, node) : Entry) :: node.descendants).filter fun entry => entry.1.any accepts).map
        (·.2) := by
    rw [namedBeneath, List.filter_cons_of_neg (by simp), ← List.filterMap_eq_map,
      List.filterMap_filter]
    rfl
  have hwalk := congrArg (List.filter fun found : Option Entry =>
    (found.bind (·.1)).any accepts) node.map_entryAt?
  rw [List.filter_map, List.filter_map] at hwalk
  have hnodes := congrArg (List.map (Option.map (·.2))) hwalk
  rw [List.map_map, List.map_map] at hnodes
  rw [hnamed, List.map_map]
  exact hnodes.symm

theorem length_selfAndBeneath (node : Json) : node.selfAndBeneath.length = node.size := by
  rw [← length_withDescendants (none, node), selfAndBeneath, withDescendants, List.length_cons,
    List.length_cons, List.length_map]

theorem length_namedBeneath_le (accepts : String → Bool) (node : Json) :
    (node.namedBeneath accepts).length ≤ node.size := by
  have hshorter : (node.namedBeneath accepts).length ≤ node.descendants.length :=
    List.length_filterMap_le _ _
  have hwhole := node.length_selfAndBeneath
  rw [selfAndBeneath, List.length_cons, List.length_map] at hwhole
  omega

end Json

/-! ## Nodes by a condition -/

/-- If a condition is decided for a node. -/
def decides (holds : Json → Except SelectError Bool) (node : Json) : Bool :=
  (holds node).isOk

/-- If a condition holds for a node. -/
def matched (holds : Json → Except SelectError Bool) (node : Json) : Bool :=
  match holds node with
  | .ok answer => answer
  | .error _ => false

/-- Up to the first failure of the condition exactly the nodes are kept for which it
holds; then comes the failure. -/
theorem untilFailure_keptNodes (holds : Json → Except SelectError Bool) (nodes : List Json) :
    untilFailure (keptNodes holds nodes) =
      ((nodes.takeWhile (decides holds)).filter (matched holds)).map .ok ++
        ((nodes.dropWhile (decides holds)).take 1).map fun node =>
          (holds node).map fun _ => node := by
  induction nodes with
  | nil => rfl
  | cons node rest ih =>
      rw [keptNodes] at ih ⊢
      cases hnode : holds node with
      | error error =>
          have hdecides : decides holds node = false := by rw [decides, hnode]; rfl
          rw [List.filterMap_cons, List.takeWhile_cons_of_neg (by simp [hdecides]),
            List.dropWhile_cons_of_neg (by simp [hdecides])]
          simp [hnode, untilFailure, Except.map]
      | ok answer =>
          have hdecides : decides holds node = true := by rw [decides, hnode]; rfl
          rw [List.filterMap_cons, List.takeWhile_cons_of_pos hdecides,
            List.dropWhile_cons_of_pos hdecides]
          cases answer with
          | false =>
              rw [List.filter_cons_of_neg (by simp [matched, hnode])]
              simp only [hnode]
              exact ih
          | true =>
              rw [List.filter_cons_of_pos (by simp [matched, hnode])]
              simp only [hnode, untilFailure, List.map_cons, List.cons_append]
              rw [ih]

theorem length_keptNodes_le (holds : Json → Except SelectError Bool) (nodes : List Json) :
    (keptNodes holds nodes).length ≤ nodes.length :=
  List.length_filterMap_le _ _

/-! ## The items of a descent -/

section Items

variable (settings : Settings) (root node : Json)

theorem toList_descend :
    (Step.outputs settings root (.descend none) node).toList = node.selfAndBeneath.map .ok := by
  rw [toList_outputs, Settings.results]

theorem toList_descend_name (name : String) :
    (Step.outputs settings root (.descend (some name)) node).toList =
      (node.namedBeneath (· == name)).map .ok := by
  rw [toList_outputs, Settings.results]

theorem toList_descendAny (names : NameSet) :
    (Step.outputs settings root (.descendAny names) node).toList =
      (node.namedBeneath names.contains).map .ok := by
  rw [toList_outputs, Settings.results]

theorem toList_descendFilter (condition : Condition) :
    (Step.outputs settings root (.descendFilter condition) node).toList =
      keptNodes (condition.holds settings root) node.selfAndBeneath := by
  rw [toList_outputs, Settings.results]

/-- Items that are all nodes, told by the places of the nodes. -/
theorem map_some_ok {nodes : List Json} {places : List Place}
    (h : nodes.map some = places.map node.nodeAt?) :
    (nodes.map (.ok : Json → Item)).map some =
      places.map fun place => (node.nodeAt? place).map .ok := by
  have hitems := congrArg (List.map (Option.map (.ok : Json → Item))) h
  rw [List.map_map, List.map_map] at hitems
  rw [List.map_map]
  exact hitems

theorem length_descent_le (name : Option String) (names : NameSet) (condition : Condition) :
    ∀ step ∈ [Step.descend name, .descendAny names, .descendFilter condition],
      (Step.outputs settings root step node).toList.length ≤ node.size := by
  intro step hstep
  simp only [List.mem_cons, List.not_mem_nil, or_false] at hstep
  rcases hstep with rfl | rfl | rfl
  · cases name with
    | none =>
        rw [toList_descend, List.length_map, Json.length_selfAndBeneath]
    | some name =>
        rw [toList_descend_name, List.length_map]
        exact Json.length_namedBeneath_le _ _
  · rw [toList_descendAny, List.length_map]
    exact Json.length_namedBeneath_le _ _
  · rw [toList_descendFilter, ← Json.length_selfAndBeneath]
    exact length_keptNodes_le _ _

end Items

theorem length_untilFailure_le (items : List Item) :
    (untilFailure items).length ≤ items.length := by
  induction items with
  | nil => exact Nat.le_refl _
  | cons item rest ih =>
      cases item with
      | ok node => exact Nat.succ_le_succ ih
      | error error => exact Nat.succ_le_succ (Nat.zero_le _)

/-- The walk with a stack of levels is the recursive pre-order.  The places of a
document are the ways in it that lead to a node, in lexicographic order, and a place
has a name if it is that of a member.  A descent yields the node at each place; or, for
one name or several, at each place that has such a name; or, for a condition, each of
the nodes for which it holds, up to the first for which it fails.  After as many
answers as there are nodes every descent has ended. -/
theorem descent_eq_preorder (settings : Settings) (root node : Json) :
    let items := fun step => (Step.outputs settings root step node).toList
    let reached := fun place => (node.nodeAt? place).map fun found => (.ok found : Item)
    (∀ place, place ∈ node.places ↔ (node.nodeAt? place).isSome = true) ∧
    node.places.Pairwise (· < ·) ∧
    (∀ place name, node.nameAt? place = some name ↔
      ∃ container index members value, place = container ++ [index] ∧
        node.nodeAt? container = some (.object members) ∧
        members[index]? = some (name, value)) ∧
    (items (.descend none)).map some = node.places.map reached ∧
    (∀ name, (items (.descend (some name))).map some =
      (node.places.filter fun place => node.nameAt? place = some name).map reached) ∧
    (∀ names, (items (.descendAny names)).map some =
      (node.places.filter fun place => (node.nameAt? place).any (· ∈ names.names)).map
        reached) ∧
    (∀ condition, ∃ nodes : List Json, items (.descend none) = nodes.map .ok ∧
      untilFailure (items (.descendFilter condition)) =
        ((nodes.takeWhile (decides (condition.holds settings root))).filter
          (matched (condition.holds settings root))).map .ok ++
        ((nodes.dropWhile (decides (condition.holds settings root))).take 1).map fun found =>
          (condition.holds settings root found).map fun _ => found) ∧
    ∀ name names condition,
      ∀ step ∈ [Step.descend name, .descendAny names, .descendFilter condition], ∀ later,
        (⟨Step.outputs settings root step node, false⟩ : Selection).answer (node.size + later) =
          none := by
  intro items reached
  refine ⟨node.mem_places_iff, node.pairwise_places, node.nameAt?_eq_some_iff, ?_, ?_, ?_, ?_, ?_⟩
  · simp only [items, toList_descend]
    exact map_some_ok node node.map_selfAndBeneath
  · intro name
    have hfilter : (node.places.filter fun place => node.nameAt? place = some name) =
        node.places.filter fun place => (node.nameAt? place).any (· == name) := by
      refine List.filter_congr fun place _ => ?_
      cases node.nameAt? place with
      | none => rfl
      | some other => simp [beq_eq_decide]
    simp only [items, toList_descend_name, hfilter]
    exact map_some_ok node (node.map_namedBeneath _)
  · intro names
    have hfilter : (node.places.filter fun place => (node.nameAt? place).any (· ∈ names.names)) =
        node.places.filter fun place => (node.nameAt? place).any names.contains := by
      refine List.filter_congr fun place _ => ?_
      cases node.nameAt? place with
      | none => rfl
      | some other => simp [NameSet.contains]
    simp only [items, toList_descendAny, hfilter]
    exact map_some_ok node (node.map_namedBeneath _)
  · intro condition
    refine ⟨node.selfAndBeneath, toList_descend settings root node, ?_⟩
    simp only [items, toList_descendFilter]
    exact untilFailure_keptNodes _ _
  · intro name names condition step hstep later
    rw [Selection.answer_eq, List.getElem?_eq_none_iff]
    have hcut := length_untilFailure_le (Step.outputs settings root step node).toList
    have hlength := length_descent_le settings root node name names condition step hstep
    omega

end PathQuery
