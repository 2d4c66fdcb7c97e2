import PathQuery.Proofs.Select.DescentOrder
import PathQuery.Proofs.Select.Offspring
import PathQuery.Proofs.Select.Picks

/-!
# The nodes among the items

What a path selects are the nodes among its items.  Failures hand nothing on, so the nodes
can be followed from step to step without them: every node is replaced by the nodes that
the next step selects from it.  Here it is told for each kind of step which nodes these
are, by the members, the items or the descendants of the node alone.
-/

namespace PathQuery

/-! ## Nodes and failures -/

/-- The nodes among some items, in order. -/
def nodesOf (items : List Item) : List Json :=
  items.filterMap Except.toOption

@[simp] theorem nodesOf_map_ok (nodes : List Json) : nodesOf (nodes.map .ok) = nodes := by
  rw [nodesOf, List.filterMap_map]
  exact List.filterMap_some

theorem mem_nodesOf {items : List Item} {node : Json} :
    node ∈ nodesOf items ↔ .ok node ∈ items := by
  rw [nodesOf, List.mem_filterMap]
  constructor
  · rintro ⟨item, hitem, hnode⟩
    cases item with
    | error error => cases hnode
    | ok found =>
        cases hnode
        exact hitem
  · intro hnode
    exact ⟨.ok node, hnode, rfl⟩

theorem nodesOf_flatMap {α : Type} (results : α → List Item) (values : List α) :
    nodesOf (values.flatMap results) = values.flatMap fun value => nodesOf (results value) :=
  List.filterMap_flatMap

theorem nodesOf_replaceNodes (results : Json → List Item) (items : List Item) :
    nodesOf (replaceNodes results items) =
      (nodesOf items).flatMap fun node => nodesOf (results node) := by
  rw [replaceNodes, nodesOf_flatMap]
  induction items with
  | nil => rfl
  | cons item rest ih =>
      rw [List.flatMap_cons, ih]
      cases item with
      | ok node => rfl
      | error error => rfl

theorem nodesOf_found (settings : Settings) (error : SelectError) (value? : Option Json) :
    nodesOf (settings.found error value?) = value?.toList := by
  cases value? with
  | some value => rfl
  | none =>
      rw [Settings.found]
      split
      · rfl
      · rfl

/-- Of the nodes that are asked about, those remain for which the condition holds. -/
theorem nodesOf_keptNodes (holds : Json → Except SelectError Bool) (nodes : List Json) :
    nodesOf (keptNodes holds nodes) = nodes.filter (matched holds) := by
  rw [nodesOf, keptNodes, List.filterMap_filterMap, ← List.filterMap_eq_filter]
  refine List.filterMap_congr ?_
  intro node _
  cases hnode : holds node with
  | error error => simp [matched, Option.guard, hnode, Except.toOption]
  | ok answer => cases answer <;> simp [matched, Option.guard, hnode, Except.toOption]

/-- The nodes before the first failure begin the nodes among all items. -/
theorem nodesOf_untilFailure_prefix (items : List Item) :
    nodesOf (untilFailure items) <+: nodesOf items := by
  induction items with
  | nil => exact List.prefix_refl _
  | cons item rest ih =>
      cases item with
      | ok node => exact (List.prefix_cons_inj node).2 ih
      | error error => exact List.nil_prefix

/-! ## The nodes that the steps of a path select -/

namespace Settings

variable (settings : Settings) (root : Json)

/-- The nodes that a step selects from a node. -/
def selected (step : Step) (node : Json) : List Json :=
  nodesOf (settings.results root step node)

/-- The nodes that the steps of a path select from some nodes. -/
def selectedFrom : List Step → List Json → List Json
  | [], nodes => nodes
  | step :: rest, nodes => selectedFrom rest (nodes.flatMap (settings.selected root step))

theorem nodesOf_resultsFrom (steps : List Step) (items : List Item) :
    nodesOf (resultsFrom settings root steps items) =
      settings.selectedFrom root steps (nodesOf items) := by
  induction steps generalizing items with
  | nil => rfl
  | cons step rest ih =>
      rw [resultsFrom, ih, nodesOf_replaceNodes]
      rfl

/-- The nodes of a selection begin those that its steps select without regard to
failures. -/
theorem nodesOf_selectFrom_prefix (path : Path) (current : Json) :
    nodesOf (path.selectFrom settings root current).sequence <+:
      settings.selectedFrom root path.steps [current] := by
  have hwhole : nodesOf (eagerItems settings path.steps root current) =
      settings.selectedFrom root path.steps [current] :=
    nodesOf_resultsFrom settings root path.steps [.ok current]
  rw [← hwhole, sequence_selectFrom]
  exact nodesOf_untilFailure_prefix _

theorem nodesOf_sequence_prefix (path : Path) :
    nodesOf (path.select settings root).sequence <+:
      settings.selectedFrom root path.steps [root] :=
  settings.nodesOf_selectFrom_prefix root path root

end Settings

/-! ## What each kind of step selects -/

namespace Settings

open Json

variable (settings : Settings) (root node : Json)

theorem selected_member (name : String) :
    settings.selected root (.member (some name)) node = memberValues [name] node.members := by
  rw [selected, memberValues_singleton]
  cases node with
  | object members => exact nodesOf_found settings _ _
  | _ => exact nodesOf_found settings _ none

theorem selected_everyMember :
    settings.selected root (.member none) node = node.members.map Prod.snd := by
  rw [selected]
  cases node with
  | object members =>
      rw [results, ← Function.comp_def, ← List.map_map, nodesOf_map_ok]
      rfl
  | _ => exact nodesOf_found settings _ none

theorem selected_members (names : List String) :
    settings.selected root (.members names) node = memberValues names node.members := by
  rw [selected]
  cases node with
  | object members =>
      rw [results, nodesOf_flatMap, memberValues, List.filterMap_eq_flatMap_toList]
      exact List.flatMap_congr fun name _ => nodesOf_found settings _ _
  | _ => exact (nodesOf_found settings _ none).trans (memberValues_nil names).symm

theorem selected_element (index : Int64) :
    settings.selected root (.element (some index)) node =
      Slice.itemsAt node.items [index.toInt] := by
  rw [selected]
  cases node with
  | array items =>
      rw [results, nodesOf_found, Json.items, Slice.itemsAt, List.filterMap_cons]
      cases Slice.element? items index.toInt <;> rfl
  | _ => exact (nodesOf_found settings _ none).trans (Slice.itemsAt_nil _).symm

theorem selected_everyElement :
    settings.selected root (.element none) node = node.items := by
  rw [selected]
  cases node with
  | array items => exact nodesOf_map_ok items
  | _ => exact nodesOf_found settings _ none

theorem selected_elements (indices : List Int64) :
    settings.selected root (.elements indices) node =
      Slice.itemsAt node.items (indices.map Int64.toInt) := by
  rw [selected]
  cases node with
  | array items =>
      rw [results, nodesOf_flatMap, Slice.itemsAt, List.filterMap_map,
        List.filterMap_eq_flatMap_toList]
      exact List.flatMap_congr fun index _ => nodesOf_found settings _ _
  | _ => exact (nodesOf_found settings _ none).trans (Slice.itemsAt_nil _).symm

theorem selected_slice (start stop stride : Option Int64) :
    settings.selected root (.slice start stop stride) node =
      if stride = some 0 then []
      else Slice.picked node.items (Slice.ofBounds node.items.length (start.map Int64.toInt)
        (stop.map Int64.toInt) (stride.map Int64.toInt)) := by
  rw [selected]
  by_cases hzero : stride = some 0
  · have hfailure : settings.results root (.slice start stop stride) node =
        [.error .zeroStride] := by
      cases node <;> exact if_pos hzero
    rw [if_pos hzero, hfailure]
    rfl
  · rw [if_neg hzero]
    cases node with
    | array items =>
        simp only [results, if_neg hzero, Json.items]
        split
        · exact nodesOf_map_ok _
        · rename_i hrange
          rw [nodesOf_found, Slice.picked_of_not_inRange _ (by simpa using hrange)]
          rfl
    | _ =>
        simp only [results, if_neg hzero]
        exact nodesOf_found settings _ none

theorem selected_filter (condition : Condition) :
    settings.selected root (.filter condition) node =
      node.children.filter (matched (condition.holds settings root)) :=
  nodesOf_keptNodes _ _

theorem selected_descend :
    settings.selected root (.descend none) node = node.selfAndBeneath :=
  nodesOf_map_ok _

theorem selected_descend_name (name : String) :
    settings.selected root (.descend (some name)) node = node.namedBeneath (· == name) :=
  nodesOf_map_ok _

theorem selected_descendAny (names : NameSet) :
    settings.selected root (.descendAny names) node = node.namedBeneath names.contains :=
  nodesOf_map_ok _

theorem selected_descendFilter (condition : Condition) :
    settings.selected root (.descendFilter condition) node =
      node.selfAndBeneath.filter (matched (condition.holds settings root)) :=
  nodesOf_keptNodes _ _

end Settings

/-! ## Places of nodes -/

/-- Nodes in pre-order stand at places that ascend. -/
theorem exists_places_of_sublist {root : Json} {nodes : List Json}
    (h : nodes.Sublist root.selfAndBeneath) :
    ∃ places : List Place, places.Sublist root.places ∧
      nodes.map some = places.map root.nodeAt? := by
  have hplaces := h.map some
  rw [root.map_selfAndBeneath] at hplaces
  exact List.sublist_map_iff.1 hplaces

/-- Some of the nodes of a document, in any order, stand at different places of it, put into the
same order. -/
theorem exists_places_of_subperm {root : Json} {nodes : List Json}
    (h : nodes.Subperm root.selfAndBeneath) :
    ∃ places : List Place, places.Nodup ∧ (∀ place ∈ places, place ∈ root.places) ∧
      nodes.map some = places.map root.nodeAt? := by
  obtain ⟨ordered, hperm, hsublist⟩ := h
  obtain ⟨ascending, hascending, hmap⟩ := exists_places_of_sublist hsublist
  have hnodes : (nodes.map some).Perm (ascending.map root.nodeAt?) := by
    rw [← hmap]
    exact hperm.symm.map some
  have hcomp : Relation.Comp (· = List.map root.nodeAt? ·) List.Perm (nodes.map some)
      ascending := by
    rw [List.eq_map_comp_perm]
    exact hnodes
  obtain ⟨places, hplaces, hsame⟩ := hcomp
  refine ⟨places, ?_, ?_, hplaces⟩
  · rw [hsame.nodup_iff]
    exact root.pairwise_places.nodup.sublist hascending
  · intro place hplace
    exact hascending.subset (hsame.subset hplace)

/-- As many nodes of a document pass a test as there are places that hold one that does. -/
theorem Json.countP_selfAndBeneath (root : Json) (accepts : Json → Bool) :
    root.selfAndBeneath.countP accepts =
      root.places.countP fun place => (root.nodeAt? place).any accepts := by
  have hnodes := congrArg (List.countP (Option.any accepts)) root.map_selfAndBeneath
  rwa [List.countP_map, List.countP_map] at hnodes

/-! ## Descents -/

/-- If a step selects from a node and all nodes beneath it. -/
def Step.isDescent : Step → Bool
  | .descend _ | .descendAny _ | .descendFilter _ => true
  | _ => false

/-- A descent selects some of a node and the nodes beneath it, in pre-order. -/
theorem Settings.selected_sublist_selfAndBeneath (settings : Settings) (root node : Json)
    {step : Step} (h : step.isDescent = true) :
    (settings.selected root step node).Sublist node.selfAndBeneath := by
  cases step with
  | descend name =>
      cases name with
      | none => rw [selected_descend]
      | some name =>
          rw [selected_descend_name]
          exact (node.namedBeneath_sublist _).trans node.beneath_sublist
  | descendAny names =>
      rw [selected_descendAny]
      exact (node.namedBeneath_sublist _).trans node.beneath_sublist
  | descendFilter condition =>
      rw [selected_descendFilter]
      exact List.filter_sublist
  | _ => cases h

end PathQuery
