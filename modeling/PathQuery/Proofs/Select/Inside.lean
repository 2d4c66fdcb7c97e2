import PathQuery.Proofs.Select.Selected

/-!
# Selection stays inside of the document

A node is inside of a document if it stands at one of its places.  No step makes a node: the
root step goes to the document, every other one to the node that it is applied to, to its
children or to what is beneath it, and a condition decides about nodes but hands none on.
Main statement: what a path selects from a node is inside of that node or of the document,
however many descents and roots the path has.
-/

namespace PathQuery

namespace Json

/-! ## Nodes inside of nodes -/

/-- If a node stands somewhere in a document: if it is the document or lies inside of it. -/
def Inside (node root : Json) : Prop :=
  ∃ place : Place, root.nodeAt? place = some node

theorem Inside.refl (node : Json) : node.Inside node :=
  ⟨[], rfl⟩

theorem Inside.trans {node middle root : Json} (h : node.Inside middle)
    (hmiddle : middle.Inside root) : node.Inside root := by
  obtain ⟨beneath, hbeneath⟩ := h
  obtain ⟨place, hplace⟩ := hmiddle
  refine ⟨place ++ beneath, ?_⟩
  rw [nodeAt?_append, hplace, Option.bind_some, hbeneath]

/-- The nodes inside of a document are those that a walk in pre-order meets. -/
theorem inside_iff_mem {node root : Json} : node.Inside root ↔ node ∈ root.selfAndBeneath := by
  have hwalk : node ∈ root.selfAndBeneath ↔ some node ∈ root.selfAndBeneath.map some :=
    (List.mem_map_of_injective (Option.some_injective Json)).symm
  rw [hwalk, root.map_selfAndBeneath, List.mem_map]
  constructor
  · rintro ⟨place, hplace⟩
    have hmem : place ∈ root.places := by
      rw [mem_places_iff, hplace]
      rfl
    exact ⟨place, hmem, hplace⟩
  · rintro ⟨place, -, hplace⟩
    exact ⟨place, hplace⟩

theorem inside_of_mem_children {node container : Json} (h : node ∈ container.children) :
    node.Inside container := by
  have hbeneath : node ∈ container.beneath := by
    rw [beneath_eq, List.mem_flatMap]
    exact ⟨node, h, List.mem_cons_self⟩
  exact inside_iff_mem.2 (container.beneath_sublist.subset hbeneath)

end Json

namespace Settings

open Json

variable (settings : Settings) (root : Json)

/-! ## One step -/

/-- A step that is neither the root nor a descent selects children. -/
theorem selected_subset_children {step : Step} (hroot : step ≠ .root)
    (hdescent : step.isDescent = false) (node : Json) :
    settings.selected root step node ⊆ node.children := by
  have hmembers := node.members_sublist_children.subset
  have hitems := node.items_sublist_children.subset
  cases step with
  | root => exact absurd rfl hroot
  | member name =>
      cases name with
      | none =>
          rw [selected_everyMember]
          exact hmembers
      | some name =>
          rw [selected_member]
          exact List.Subset.trans (memberValues_subset _ _) hmembers
  | members names =>
      rw [selected_members]
      exact List.Subset.trans (memberValues_subset _ _) hmembers
  | element index =>
      cases index with
      | none =>
          rw [selected_everyElement]
          exact hitems
      | some index =>
          rw [selected_element]
          exact List.Subset.trans (Slice.itemsAt_subset _ _) hitems
  | elements indices =>
      rw [selected_elements]
      exact List.Subset.trans (Slice.itemsAt_subset _ _) hitems
  | slice start stop stride =>
      rw [selected_slice]
      by_cases hzero : stride = some 0
      · rw [if_pos hzero]
        exact List.nil_subset _
      · rw [if_neg hzero, Slice.picked_eq]
        exact List.Subset.trans (Slice.itemsAt_subset _ _) hitems
  | filter condition =>
      rw [selected_filter]
      exact List.filter_subset_self _
  | _ => cases hdescent

/-- A step selects nodes inside of the node that it is applied to, or the root. -/
theorem inside_of_mem_selected {step : Step} {node found : Json}
    (h : found ∈ settings.selected root step node) : found.Inside node ∨ found = root := by
  by_cases hroot : step = .root
  · subst hroot
    exact Or.inr (List.mem_singleton.1 h)
  · left
    by_cases hdescent : step.isDescent = true
    · have hwalk := settings.selected_sublist_selfAndBeneath root node hdescent
      exact inside_iff_mem.2 (hwalk.subset h)
    · have hchildren := settings.selected_subset_children root hroot (by simpa using hdescent) node
      exact inside_of_mem_children (hchildren h)

/-! ## The steps of a path -/

/-- The steps of a path select nodes inside of the root or of a node at which they start. -/
theorem inside_of_mem_selectedFrom {steps : List Step} {nodes : List Json} {found : Json}
    (h : found ∈ settings.selectedFrom root steps nodes) :
    (∃ node ∈ nodes, found.Inside node) ∨ found.Inside root := by
  induction steps generalizing nodes with
  | nil => exact Or.inl ⟨found, h, .refl found⟩
  | cons step rest ih =>
      obtain ⟨middle, hmiddle, hfound⟩ | hfound := ih h
      · obtain ⟨node, hnode, hselected⟩ := List.mem_flatMap.1 hmiddle
        obtain hinside | rfl := settings.inside_of_mem_selected root hselected
        · exact Or.inl ⟨node, hnode, hfound.trans hinside⟩
        · exact Or.inr hfound
      · exact Or.inr hfound

theorem inside_of_mem_sequence {path : Path} {current node : Json}
    (h : .ok node ∈ (path.selectFrom settings root current).sequence) :
    node.Inside current ∨ node.Inside root := by
  have hfront := settings.nodesOf_selectFrom_prefix root path current
  obtain ⟨start, hstart, hinside⟩ | hinside :=
    settings.inside_of_mem_selectedFrom root (hfront.subset (mem_nodesOf.2 h))
  · obtain rfl := List.mem_singleton.1 hstart
    exact Or.inl hinside
  · exact Or.inr hinside

end Settings

/-- A selection makes no nodes.  Every node that a path selects from a node of a document
stands at a place of that node or of the document; so what it selects from the document is
the document or lies inside of it, and no constant of the path. -/
theorem selection_stays_inside (path : Path) (settings : Settings) (root current : Json) :
    (∀ node, .ok node ∈ (path.selectFrom settings root current).sequence →
      node.Inside current ∨ node.Inside root) ∧
    ∀ node, .ok node ∈ (path.select settings root).sequence → node.Inside root := by
  constructor
  · intro node hnode
    exact settings.inside_of_mem_sequence root hnode
  · intro node hnode
    obtain hinside | hinside := settings.inside_of_mem_sequence root hnode
    · exact hinside
    · exact hinside

/-- A string that is equal to the constant of the path only as a boolean is selected as the
string that it is, and a root behind a descent leads out of the node to the document. -/
theorem selection_stays_inside_coerced :
    let path : Path := ⟨"$.a[?(@==true)]", [.member (some "a"),
      .filter (.comparison .equals (.path []) (some (.literal (.bool true))))]⟩
    let root : Json := .object [("a", .array [.string "true", .null])]
    let back : Path := ⟨"", [.descend none, .root]⟩
    ((path.select {} root).sequence = [.ok (.string "true")] ∧
      (Json.string "true").Inside root) ∧
    (back.selectFrom {} root .null).sequence = [.ok root] ∧
      (root.Inside .null ∨ root.Inside root) := by
  intro path root back
  have hitems : (path.select {} root).sequence = [.ok (.string "true")] := by
    rw [Path.select, sequence_selectFrom]
    rfl
  have hback : (back.selectFrom {} root .null).sequence = [.ok root] := by
    rw [sequence_selectFrom]
    rfl
  refine ⟨⟨hitems, ?_⟩, hback, ?_⟩
  · apply (selection_stays_inside path {} root root).2
    rw [hitems]
    exact List.mem_singleton_self _
  · apply (selection_stays_inside back {} root .null).1
    rw [hback]
    exact List.mem_singleton_self _

end PathQuery
