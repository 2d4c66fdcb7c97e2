import PathQuery.Proofs.Select.Selected

/-!
# Selection in document order

A step that looks at the children of a node from the first to the last keeps the nodes in
the order of the document, and so does a descent behind all other steps.  The nodes alone
do not show it: what is kept from step to step is the order of the nodes together with
everything beneath them.  Main statement: a path of such steps selects nodes at places of
the document that ascend, so none is selected twice.
-/

namespace PathQuery

open scoped List

/-! ## Steps that keep the order -/

namespace Step

/-- If a step selects children of a node in their order. -/
def isOrderly : Step → Bool
  | member _ | element _ | filter _ => true
  | slice _ _ stride => stride.all (0 < ·)
  | _ => false

end Step

/-- If the steps of a path keep the order of a document: each but the last one selects
children in their order, and the last one does so or is a descent. -/
def keepOrder : List Step → Bool
  | [] => true
  | step :: rest => step.isOrderly && keepOrder rest || step.isDescent && rest.isEmpty

namespace Settings

open Json

variable (settings : Settings) (root node : Json)

theorem stride_pos {start stop stride : Option Int64} {count : Nat}
    {first last : Option Int} (h : (Step.slice start stop stride).isOrderly = true) :
    0 < (Slice.ofBounds count first last (stride.map Int64.toInt)).stride := by
  cases stride with
  | none => exact Int.zero_lt_one
  | some stride =>
      have hpos : 0 < stride := by simpa [Step.isOrderly] using h
      exact Int64.lt_iff_toInt_lt.1 hpos

/-- An orderly step selects some of the children of a node, in their order. -/
theorem selected_sublist_children {step : Step} (h : step.isOrderly = true) :
    settings.selected root step node <+ node.children := by
  cases step with
  | member name =>
      refine List.Sublist.trans ?_ node.members_sublist_children
      cases name with
      | none => rw [selected_everyMember]
      | some name =>
          rw [selected_member]
          exact memberValues_singleton_sublist name _
  | element index =>
      refine List.Sublist.trans ?_ node.items_sublist_children
      cases index with
      | none => rw [selected_everyElement]
      | some index =>
          rw [selected_element]
          exact Slice.itemsAt_sublist _ (List.pairwise_singleton _ _)
  | slice start stop stride =>
      refine List.Sublist.trans ?_ node.items_sublist_children
      rw [selected_slice]
      split
      · exact List.nil_sublist _
      · rw [Slice.picked_eq]
        exact Slice.itemsAt_sublist _ (Slice.pairwise_places _ (stride_pos h))
  | filter condition =>
      rw [selected_filter]
      exact List.filter_sublist
  | _ => cases h

/-! ## Paths that keep the order -/

/-- The nodes that an orderly step selects, with everything beneath them, are in the order
of what was beneath the nodes before it. -/
theorem flatMap_selected_sublist {step : Step} (h : step.isOrderly = true)
    (nodes : List Json) :
    (nodes.flatMap (settings.selected root step)).flatMap selfAndBeneath <+
      nodes.flatMap selfAndBeneath := by
  rw [List.flatMap_assoc]
  refine List.Sublist.flatMap_right _ ?_
  intro node _
  have hchildren := (settings.selected_sublist_children root node h).flatMap selfAndBeneath
  rw [← beneath_eq] at hchildren
  exact hchildren.trans node.beneath_sublist

/-- Steps that keep the order select some of what is beneath the nodes at which they start,
in that order. -/
theorem selectedFrom_sublist {steps : List Step} (h : keepOrder steps = true)
    (nodes : List Json) :
    settings.selectedFrom root steps nodes <+ nodes.flatMap selfAndBeneath := by
  induction steps generalizing nodes with
  | nil => exact sublist_flatMap_selfAndBeneath nodes
  | cons step rest ih =>
      rw [keepOrder, Bool.or_eq_true, Bool.and_eq_true, Bool.and_eq_true] at h
      rw [selectedFrom]
      rcases h with ⟨hstep, hrest⟩ | ⟨hstep, hrest⟩
      · exact (ih hrest _).trans (settings.flatMap_selected_sublist root hstep nodes)
      · rw [List.isEmpty_iff.1 hrest, selectedFrom]
        refine List.Sublist.flatMap_right _ ?_
        intro node _
        exact settings.selected_sublist_selfAndBeneath root node hstep

end Settings

/-- A path that looks at members, items, slices with a positive stride and filtered children,
and ends in a descent or not, selects nodes in document order: they are some of the nodes in
pre-order, and stand at places of the document of which each is greater than the one before
it, under all settings and also before a failure. -/
theorem selection_in_document_order (path : Path) (settings : Settings) (root : Json)
    (h : keepOrder path.steps = true) :
    let nodes := nodesOf (path.select settings root).sequence
    nodes <+ root.selfAndBeneath ∧
    ∃ places : List Place, places <+ root.places ∧ places.Pairwise (· < ·) ∧
      nodes.map some = places.map root.nodeAt? := by
  intro nodes
  have hnodes : nodes <+ root.selfAndBeneath := by
    have hsteps := settings.selectedFrom_sublist root h [root]
    rw [List.flatMap_singleton] at hsteps
    exact (settings.nodesOf_sequence_prefix root path).sublist.trans hsteps
  obtain ⟨places, hplaces, hmap⟩ := exists_places_of_sublist hnodes
  exact ⟨hnodes, places, hplaces, root.pairwise_places.sublist hplaces, hmap⟩

/-- Every second item of an array and everything beneath it: a descent behind a slice. -/
theorem selection_in_document_order_slice :
    let path : Path :=
      ⟨"$.a[::2]..*", [.member (some "a"), .slice none none (some 2), .descend none]⟩
    let root : Json := .object [("a", .array [.array [.null], .bool true, .array [.null]])]
    let nodes := nodesOf (path.select {} root).sequence
    keepOrder path.steps = true ∧
    nodes = [.array [.null], .null, .array [.null], .null] ∧
    nodes <+ root.selfAndBeneath ∧
    ∃ places : List Place, places <+ root.places ∧ places.Pairwise (· < ·) ∧
      nodes.map some = places.map root.nodeAt? := by
  intro path root nodes
  have horder : keepOrder path.steps = true := by decide
  have hnodes : nodes = [.array [.null], .null, .array [.null], .null] := by
    simp only [nodes, Path.select, sequence_selectFrom]
    rfl
  exact ⟨horder, hnodes, selection_in_document_order path {} root horder⟩

end PathQuery
