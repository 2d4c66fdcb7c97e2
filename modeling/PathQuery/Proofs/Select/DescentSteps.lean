import PathQuery.Proofs.Json.DistinctNames
import PathQuery.Proofs.Select.Causes
import PathQuery.Proofs.Select.Composition
import PathQuery.Proofs.Select.Inside

/-!
# Descents by steps

A descent to the members of some names, or to the nodes for which a condition holds, can be
taken in two steps: first to all nodes, and from each of them to its own members or
children.  The nodes come in another order then, since the entries of a container follow
each other there, and each has what is beneath it behind itself here.  Main statement:
where no object has two members of one name, both ways lead to the same nodes, each as
often.  A document that was read is such a document.
-/

namespace PathQuery

open scoped List

/-! ## Two steps -/

section Steps

variable (settings : Settings) (root node : Json)

theorem eagerItems_single (step : Step) :
    eagerItems settings [step] root node = settings.results root step node := by
  rw [eagerItems, resultsFrom, resultsFrom, replaceNodes_node]
  exact List.append_nil _

/-- A step behind a descent to all nodes is taken from each of them. -/
theorem eagerItems_descend_step (step : Step) :
    eagerItems settings [.descend none, step] root node =
      node.selfAndBeneath.flatMap (settings.results root step) := by
  have hstep : eagerItems settings [step] root = settings.results root step :=
    funext fun found => eagerItems_single settings root found step
  have hsplit := eagerItems_append settings root [.descend none] [step] node
  rw [hstep, eagerItems_single, Settings.results, replaceNodes, List.flatMap_map] at hsplit
  exact hsplit

end Steps

/-! ## Members -/

namespace Json

/-- The entries whose name is one of some names are members with one of these names. -/
theorem filter_entries (accepts : String → Bool) (node : Json) :
    (node.entries.filter fun entry => entry.1.any accepts).map (·.2) =
      (node.members.filter fun member => accepts member.1).map Prod.snd := by
  cases node with
  | object members =>
      rw [entries, List.filter_map, List.map_map]
      rfl
  | array items =>
      have hnone : (entries (array items)).filter (fun entry => entry.1.any accepts) = [] := by
        rw [List.filter_eq_nil_iff]
        intro entry hentry
        obtain ⟨item, _, rfl⟩ := List.mem_map.1 hentry
        exact Bool.false_ne_true
      rw [hnone]
      rfl
  | _ => rfl

/-- The members beneath a node with one of some names are those that the names pick from
each node. -/
theorem namedBeneath_perm {names : List String} (hnames : names.Nodup) {node : Json}
    (hnode : node.HasDistinctNames) :
    node.namedBeneath names.contains ~
      node.selfAndBeneath.flatMap fun found => memberValues names found.members := by
  have hpicked : ∀ found ∈ node.selfAndBeneath,
      (found.entries.filter fun entry => entry.1.any names.contains).map (·.2) ~
        memberValues names found.members := by
    intro found hfound
    rw [filter_entries]
    exact (memberValues_perm hnames (hnode found hfound)).symm
  have hwalk := (node.flatMap_entries_perm.filter
    fun entry => entry.1.any names.contains).map (·.2)
  rw [List.filter_flatMap, List.map_flatMap] at hwalk
  rw [namedBeneath_eq]
  exact hwalk.symm.trans (List.Perm.flatMap_left _ hpicked)

end Json

/-- Items without a failure are their nodes. -/
theorem eq_map_nodesOf {items : List Item} (h : ∀ error, .error error ∉ items) :
    items = (nodesOf items).map .ok := by
  induction items with
  | nil => rfl
  | cons item rest ih =>
      cases item with
      | ok node =>
          have hrest := ih fun error herror => h error (List.mem_cons_of_mem _ herror)
          exact congrArg (Except.ok node :: ·) hrest
      | error error => exact absurd List.mem_cons_self (h error)

/-- Under lenient settings a step that looks for something yields what it selects and
nothing else. -/
theorem results_lenient (settings : Settings) (root node : Json) {step : Step}
    (hslice : ∀ start stop, step ≠ .slice start stop (some 0))
    (hasks : ∀ condition, ¬(step = .filter condition ∨ step = .descendFilter condition)) :
    settings.leniently.results root step node =
      (settings.leniently.selected root step node).map .ok := by
  refine eq_map_nodesOf ?_
  intro error herror
  rcases error_mem_results rfl herror with ⟨-, start, stop, hstep⟩ | ⟨condition, hstep, -⟩
  · exact hslice start stop hstep
  · exact hasks condition hstep

/-- A descent to the members of some names is one to all nodes with a step to the members
behind it that selects, from each node, what the names pick. -/
theorem named_perm_steps {settings : Settings} {root node : Json} {names : List String}
    (hnames : names.Nodup) (hnode : node.HasDistinctNames) {step : Step}
    (hstep : ∀ found, settings.results root step found =
      (Json.memberValues names found.members).map .ok) :
    (node.namedBeneath names.contains).map .ok ~
      eagerItems settings [.descend none, step] root node := by
  rw [eagerItems_descend_step, funext hstep, ← List.map_flatMap]
  exact (Json.namedBeneath_perm hnames hnode).map _

/-! ## Conditions -/

theorem keptNodes_flatMap {α : Type} (holds : Json → Except SelectError Bool)
    (nodes : α → List Json) (values : List α) :
    keptNodes holds (values.flatMap nodes) =
      values.flatMap fun value => keptNodes holds (nodes value) :=
  List.filterMap_flatMap

/-- The nodes beneath a node for which a condition holds are the children of all nodes for
which it holds. -/
theorem keptNodes_beneath_perm (holds : Json → Except SelectError Bool) (node : Json) :
    keptNodes holds node.beneath ~
      node.selfAndBeneath.flatMap fun found => keptNodes holds found.children := by
  rw [← keptNodes_flatMap]
  exact (node.flatMap_children_perm.filterMap _).symm

/-- A descent to the nodes for which a condition holds is a filter behind a descent to all
nodes, with the node itself before it. -/
theorem kept_perm_steps (settings : Settings) (root node : Json) (condition : Condition) :
    keptNodes (condition.holds settings root) node.selfAndBeneath ~
      keptNodes (condition.holds settings root) [node] ++
        eagerItems settings [.descend none, .filter condition] root node := by
  have hself : node.selfAndBeneath = [node] ++ node.beneath := rfl
  rw [hself, keptNodes, List.filterMap_append, eagerItems_descend_step]
  exact (keptNodes_beneath_perm _ node).append_left _

theorem keptNodes_self {holds : Json → Except SelectError Bool} {node : Json}
    (h : decides holds node = true) :
    keptNodes holds [node] = if matched holds node then [.ok node] else [] := by
  unfold decides at h
  unfold matched
  rw [keptNodes, List.filterMap_cons]
  cases hnode : holds node with
  | error error =>
      rw [hnode] at h
      cases h
  | ok answer => cases answer <;> rfl

/-! ## The three descents -/

section Descents

variable (settings : Settings) (root : Json) {node : Json}

theorem descend_perm_member (hnode : node.HasDistinctNames) (name : String) :
    settings.leniently.results root (.descend (some name)) node ~
      eagerItems settings.leniently [.descend none, .member (some name)] root node := by
  have hname : (fun other => other == name) = [name].contains := by
    funext other
    rw [Bool.eq_iff_iff, beq_iff_eq, List.contains_iff_mem, List.mem_singleton]
  rw [Settings.results, hname]
  refine named_perm_steps (List.nodup_singleton name) hnode ?_
  intro found
  rw [results_lenient settings root found (by simp) (by simp), Settings.selected_member]

theorem descendAny_perm_members (hnode : node.HasDistinctNames) {names : List String}
    (hnames : names.Nodup) :
    settings.leniently.results root (.descendAny ⟨names⟩) node ~
      eagerItems settings.leniently [.descend none, .members names] root node := by
  rw [Settings.results]
  refine named_perm_steps hnames hnode ?_
  intro found
  rw [results_lenient settings root found (by simp) (by simp), Settings.selected_members]

theorem descendFilter_perm_filter {condition : Condition}
    (hdecides : decides (condition.holds settings root) node = true) :
    settings.results root (.descendFilter condition) node ~
      (if matched (condition.holds settings root) node then [.ok node] else []) ++
        eagerItems settings [.descend none, .filter condition] root node := by
  rw [Settings.results, ← keptNodes_self hdecides]
  exact kept_perm_steps settings root node condition

end Descents

/-- Descents agree with steps behind a descent to all nodes, up to the order.  Where no
object has two members of one name, a descent to one name or to several different ones
yields under lenient settings what a step to members of these names does behind a descent
to all nodes.  A descent to the nodes for which a condition holds yields, under all settings
that decide it for the node itself, the node if it holds there and what a filter does behind
a descent to all nodes. -/
theorem descent_perm_steps (settings : Settings) (root node : Json)
    (hnode : node.HasDistinctNames) :
    let items := fun (settings : Settings) (steps : List Step) =>
      (evaluate settings steps root node).toList
    (∀ name, items settings.leniently [.descend (some name)] ~
      items settings.leniently [.descend none, .member (some name)]) ∧
    (∀ names : List String, names.Nodup →
      items settings.leniently [.descendAny ⟨names⟩] ~
        items settings.leniently [.descend none, .members names]) ∧
    ∀ condition : Condition, decides (condition.holds settings root) node = true →
      items settings [.descendFilter condition] ~
        (if matched (condition.holds settings root) node then [.ok node] else []) ++
          items settings [.descend none, .filter condition] := by
  intro items
  simp only [items, toList_evaluate, eagerItems_single]
  refine ⟨?_, ?_, ?_⟩
  · intro name
    exact descend_perm_member settings root hnode name
  · intro names hnames
    exact descendAny_perm_members settings root hnode hnames
  · intro condition hdecides
    exact descendFilter_perm_filter settings root hdecides

/-- The members of two names beneath an object that has both itself: the two ways differ in
the order. -/
theorem descent_perm_steps_members :
    let root : Json :=
      .object [("a", .object [("a", .null), ("b", .null)]), ("b", .bool true)]
    let items := fun steps => (evaluate ({} : Settings).leniently steps root root).toList
    root.HasDistinctNames ∧
    items [.descendAny ⟨["b", "a"]⟩] =
      [.ok (.object [("a", .null), ("b", .null)]), .ok .null, .ok .null, .ok (.bool true)] ∧
    items [.descendAny ⟨["b", "a"]⟩] ~ items [.descend none, .members ["b", "a"]] := by
  intro root items
  have hroot : root.HasDistinctNames := by decide
  refine ⟨hroot, ?_, ?_⟩
  · simp only [items, toList_evaluate]
    rfl
  · exact (descent_perm_steps {} root root hroot).2.1 ["b", "a"] (by decide)

/-! ## Documents that are read -/

theorem Json.HasDistinctNames.of_inside {node root : Json} (h : root.HasDistinctNames)
    (hinside : node.Inside root) : node.HasDistinctNames := by
  intro found hfound
  have hroot : found.Inside root := (Json.inside_iff_mem.2 hfound).trans hinside
  exact h found (Json.inside_iff_mem.1 hroot)

/-- In a document that was read, and from whichever of its nodes, a descent to one name or to
several different ones finds what a descent to all nodes and a step to their members find. -/
theorem named_descent_perm_of_read {text : String} {root node : Json}
    (hread : Json.read text = some root) (hinside : node.Inside root) (settings : Settings) :
    let items := fun steps : List Step => (evaluate settings.leniently steps root node).toList
    (∀ name, items [.descend (some name)] ~ items [.descend none, .member (some name)]) ∧
    ∀ names : List String, names.Nodup →
      items [.descendAny ⟨names⟩] ~ items [.descend none, .members names] := by
  intro items
  have hnode : node.HasDistinctNames :=
    (Json.hasDistinctNames_of_read hread).of_inside hinside
  simp only [items, toList_evaluate, eagerItems_single]
  constructor
  · intro name
    exact descend_perm_member settings root hnode name
  · intro names hnames
    exact descendAny_perm_members settings root hnode hnames

end PathQuery
