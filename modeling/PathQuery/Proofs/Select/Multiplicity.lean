import PathQuery.Proofs.Select.SelectionOrder

/-!
# How often a node is selected

Behind a descent the nodes at hand lie inside each other, so a step is taken from a node
and from the nodes above it.  Still no node is reached twice: before the descent nothing
that is beneath one node is beneath another, and behind it every node is at hand at most
once, so each of its children is reached from it alone.  Main statement: a path without a
second descent, a return to the root or a repeated name or index selects no place of a
document twice, in whatever order it reaches them.
-/

namespace PathQuery

open scoped List

namespace Step

/-- If a step neither returns to the root nor asks for a name or an index twice. -/
def isRepeatFree : Step → Bool
  | root => false
  | members names => names.Nodup
  | elements indices => indices.Nodup
  | _ => true

end Step

namespace Settings

open Json

variable (settings : Settings) (root : Json)

/-! ## Steps to the children -/

theorem stride_ne_zero {stride : Option Int64} (h : stride ≠ some 0) {count : Nat}
    {start stop : Option Int} :
    (Slice.ofBounds count start stop (stride.map Int64.toInt)).stride ≠ 0 := by
  cases stride with
  | none => exact Int.one_ne_zero
  | some stride =>
      intro hzero
      have hstride : stride.toInt = (0 : Int64).toInt := hzero
      exact h (congrArg some (Int64.toInt_inj.1 hstride))

/-- A step that asks for nothing twice and is no descent selects no child twice. -/
theorem selected_subperm_children {step : Step} (hstep : step.isRepeatFree = true)
    (hdescent : step.isDescent = false) (node : Json) :
    settings.selected root step node <+~ node.children := by
  cases horderly : step.isOrderly with
  | true => exact (settings.selected_sublist_children root node horderly).subperm
  | false =>
      cases step with
      | members names =>
          refine List.Subperm.trans ?_ node.members_sublist_children.subperm
          rw [selected_members]
          exact memberValues_subperm (by simpa [Step.isRepeatFree] using hstep) _
      | elements indices =>
          refine List.Subperm.trans ?_ node.items_sublist_children.subperm
          rw [selected_elements]
          have hindices : indices.Nodup := by simpa [Step.isRepeatFree] using hstep
          exact Slice.itemsAt_subperm _ (hindices.map fun _ _ => Int64.toInt_inj.1)
      | slice start stop stride =>
          refine List.Subperm.trans ?_ node.items_sublist_children.subperm
          rw [selected_slice]
          by_cases hzero : stride = some 0
          · rw [if_pos hzero]
            exact List.nil_subperm
          · rw [if_neg hzero, Slice.picked_eq]
            exact Slice.itemsAt_subperm _ (Slice.nodup_places _ (stride_ne_zero hzero))
      | root => cases hstep
      | member _ => cases horderly
      | element _ => cases horderly
      | filter _ => cases horderly
      | _ => cases hdescent

/-- Before a descent: if nothing beneath the nodes at hand is there twice, then neither is
anything beneath the nodes that are selected from them. -/
theorem flatMap_selected_subperm {step : Step} (hstep : step.isRepeatFree = true)
    (hdescent : step.isDescent = false) (nodes : List Json) :
    (nodes.flatMap (settings.selected root step)).flatMap selfAndBeneath <+~
      nodes.flatMap selfAndBeneath := by
  rw [List.flatMap_assoc]
  refine subperm_flatMap_right ?_
  intro node _
  have hchildren := subperm_flatMap_left
    (settings.selected_subperm_children root hstep hdescent node) selfAndBeneath
  rw [← beneath_eq] at hchildren
  exact hchildren.trans node.beneath_sublist.subperm

/-- Behind a descent: if no node of a document is at hand twice, then none is selected
twice, since each is selected as a child of one node alone. -/
theorem selected_subperm_of_subperm {step : Step} (hstep : step.isRepeatFree = true)
    (hdescent : step.isDescent = false) {document : Json} {nodes : List Json}
    (h : nodes <+~ document.selfAndBeneath) :
    nodes.flatMap (settings.selected root step) <+~ document.selfAndBeneath := by
  have hchildren : document.selfAndBeneath.flatMap (settings.selected root step) <+~
      document.selfAndBeneath.flatMap children := by
    refine subperm_flatMap_right ?_
    intro node _
    exact settings.selected_subperm_children root hstep hdescent node
  refine (subperm_flatMap_left h _).trans (hchildren.trans ?_)
  exact document.flatMap_children_perm.subperm.trans document.beneath_sublist.subperm

/-! ## Paths with one descent -/

theorem selectedFrom_subperm_of_no_descent {steps : List Step}
    (hsteps : ∀ step ∈ steps, step.isRepeatFree = true)
    (hdescents : ∀ step ∈ steps, step.isDescent = false) {document : Json}
    {nodes : List Json} (h : nodes <+~ document.selfAndBeneath) :
    settings.selectedFrom root steps nodes <+~ document.selfAndBeneath := by
  induction steps generalizing nodes with
  | nil => exact h
  | cons step rest ih =>
      rw [List.forall_mem_cons] at hsteps hdescents
      refine ih hsteps.2 hdescents.2 ?_
      exact settings.selected_subperm_of_subperm root hsteps.1 hdescents.1 h

/-- As long as nothing beneath the nodes at hand is there twice, a path may still
descend once. -/
theorem selectedFrom_subperm {steps : List Step}
    (hsteps : ∀ step ∈ steps, step.isRepeatFree = true)
    (hdescents : steps.countP Step.isDescent ≤ 1) {document : Json} {nodes : List Json}
    (h : nodes.flatMap selfAndBeneath <+~ document.selfAndBeneath) :
    settings.selectedFrom root steps nodes <+~ document.selfAndBeneath := by
  induction steps generalizing nodes with
  | nil => exact (sublist_flatMap_selfAndBeneath nodes).subperm.trans h
  | cons step rest ih =>
      rw [List.forall_mem_cons] at hsteps
      rw [List.countP_cons] at hdescents
      rw [selectedFrom]
      cases hstep : step.isDescent with
      | true =>
          rw [if_pos hstep] at hdescents
          have hnone : ∀ other ∈ rest, other.isDescent = false := by
            simpa [List.countP_eq_zero] using hdescents
          refine settings.selectedFrom_subperm_of_no_descent root hsteps.2 hnone ?_
          refine List.Subperm.trans (subperm_flatMap_right ?_) h
          intro node _
          exact (settings.selected_sublist_selfAndBeneath root node hstep).subperm
      | false =>
          refine ih hsteps.2 (by omega) ?_
          exact (settings.flatMap_selected_subperm root hsteps.1 hstep nodes).trans h

end Settings

/-- A path without a return to the root, without a repeated name or index and with at most
one descent selects no place of a document twice: its nodes are some of the nodes in
pre-order, they stand at different places, and whatever test is made of them, equality with
a value included, no more of them pass it than places of the document hold a node that does. -/
theorem selection_repeats_no_place (path : Path) (settings : Settings) (root : Json)
    (hsteps : ∀ step ∈ path.steps, step.isRepeatFree = true)
    (hdescents : path.steps.countP Step.isDescent ≤ 1) :
    let nodes := nodesOf (path.select settings root).sequence
    nodes <+~ root.selfAndBeneath ∧
    (∃ places : List Place, places.Nodup ∧ (∀ place ∈ places, place ∈ root.places) ∧
      nodes.map some = places.map root.nodeAt?) ∧
    ∀ accepts : Json → Bool, nodes.countP accepts ≤
      root.places.countP fun place => (root.nodeAt? place).any accepts := by
  intro nodes
  have hnodes : nodes <+~ root.selfAndBeneath := by
    have hroot : [root].flatMap Json.selfAndBeneath <+~ root.selfAndBeneath := by
      rw [List.flatMap_singleton]
    have hwhole := settings.selectedFrom_subperm root hsteps hdescents hroot
    exact (settings.nodesOf_sequence_prefix root path).sublist.subperm.trans hwhole
  refine ⟨hnodes, exists_places_of_subperm hnodes, ?_⟩
  intro accepts
  rw [← root.countP_selfAndBeneath]
  exact hnodes.countP_le accepts

/-- Two members of every node, the later one first: nodes are selected from a node and from
the node above it, and not in document order. -/
theorem selection_repeats_no_place_members :
    let path : Path := ⟨"$..*['b','a']", [.descend none, .members ["b", "a"]]⟩
    let root : Json :=
      .object [("a", .object [("a", .null), ("b", .null)]), ("b", .bool true)]
    let nodes := nodesOf (path.select {} root).sequence
    (∀ step ∈ path.steps, step.isRepeatFree = true) ∧
    path.steps.countP Step.isDescent ≤ 1 ∧
    nodes = [.bool true, .object [("a", .null), ("b", .null)], .null, .null] ∧
    nodes <+~ root.selfAndBeneath ∧
    (∃ places : List Place, places.Nodup ∧ (∀ place ∈ places, place ∈ root.places) ∧
      nodes.map some = places.map root.nodeAt?) ∧
    ∀ accepts : Json → Bool, nodes.countP accepts ≤
      root.places.countP fun place => (root.nodeAt? place).any accepts := by
  intro path root nodes
  have hsteps : ∀ step ∈ path.steps, step.isRepeatFree = true := by decide
  have hdescents : path.steps.countP Step.isDescent ≤ 1 := by decide
  have hnodes : nodes = [.bool true, .object [("a", .null), ("b", .null)], .null, .null] := by
    simp only [nodes, Path.select, sequence_selectFrom]
    rfl
  exact ⟨hsteps, hdescents, hnodes, selection_repeats_no_place path {} root hsteps hdescents⟩

end PathQuery
