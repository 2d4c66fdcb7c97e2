import Mathlib.Data.List.Flatten
import Mathlib.Data.List.Perm.Subperm
import PathQuery.Proofs.Select.Eager
import PathQuery.Proofs.Select.Places

/-!
# Every node beneath a node is the child of one

A document is walked in two ways that differ in order alone: node by node in pre-order, or
container by container, each time all entries at once.  Main statement: the entries of a
node and of all nodes beneath it are the descendants of the node, each once; so whatever
is selected from the children of each node, no descendant is selected more often than by a
single walk.
-/

namespace PathQuery

open scoped List

/-! ## Some of the elements of a list, in any order -/

section Subperm

variable {α β : Type}

/-- What functions make of the elements of a list is some of what others make of them, if
it is so for each element. -/
theorem subperm_flatMap_right {values : List α} {some all : α → List β}
    (h : ∀ value ∈ values, some value <+~ all value) :
    values.flatMap some <+~ values.flatMap all := by
  induction values with
  | nil => exact List.nil_subperm
  | cons value rest ih =>
      rw [List.flatMap_cons, List.flatMap_cons]
      refine (h value List.mem_cons_self).append (ih ?_)
      intro other hother
      exact h other (List.mem_cons_of_mem _ hother)

theorem subperm_flatMap_left {values others : List α} (h : values <+~ others)
    (results : α → List β) : values.flatMap results <+~ others.flatMap results := by
  obtain ⟨found, hperm, hsublist⟩ := h
  exact ⟨_, hperm.flatMap_right results, hsublist.flatMap results⟩

end Subperm

namespace Json

/-! ## What is beneath a node -/

/-- The members of a node, if it is an object. -/
def members : Json → List (String × Json)
  | object members => members
  | _ => []

/-- The items of a node, if it is an array. -/
def items : Json → List Json
  | array items => items
  | _ => []

theorem children_array (items : List Json) : (array items).children = items := by
  rw [children, entries, List.map_map]
  exact List.map_id _

theorem children_object (members : List (String × Json)) :
    (object members).children = members.map Prod.snd := by
  rw [children, entries, List.map_map]
  rfl

theorem children_eq (node : Json) :
    node.children = node.items ++ node.members.map Prod.snd := by
  cases node with
  | array items =>
      rw [children_array]
      exact (List.append_nil _).symm
  | object members => exact children_object members
  | _ => rfl

theorem items_sublist_children (node : Json) : node.items <+ node.children := by
  rw [children_eq]
  exact List.sublist_append_left _ _

theorem members_sublist_children (node : Json) :
    node.members.map Prod.snd <+ node.children := by
  rw [children_eq]
  exact List.sublist_append_right _ _

/-- The nodes beneath a node in pre-order. -/
def beneath (node : Json) : List Json :=
  node.descendants.map (·.2)

theorem selfAndBeneath_eq (node : Json) : node.selfAndBeneath = node :: node.beneath := rfl

theorem beneath_sublist (node : Json) : node.beneath <+ node.selfAndBeneath :=
  List.sublist_cons_self _ _

/-- What is beneath a node are its children, each with what is beneath it. -/
theorem beneath_eq (node : Json) : node.beneath = node.children.flatMap selfAndBeneath := by
  rw [beneath, descendants_eq, List.map_flatMap, children, List.flatMap_map]
  rfl

/-- Nodes are some of what is beneath them and themselves, in the same order. -/
theorem sublist_flatMap_selfAndBeneath (nodes : List Json) :
    nodes <+ nodes.flatMap selfAndBeneath := by
  have hself : nodes.flatMap (fun node => [node]) <+ nodes.flatMap selfAndBeneath := by
    refine List.Sublist.flatMap_right _ ?_
    intro node _
    exact List.singleton_sublist.2 List.mem_cons_self
  rwa [List.flatMap_singleton'] at hself

theorem namedBeneath_eq (accepts : String → Bool) (node : Json) :
    node.namedBeneath accepts =
      (node.descendants.filter fun entry => entry.1.any accepts).map (·.2) := by
  rw [namedBeneath, ← List.filterMap_eq_map, List.filterMap_filter]
  rfl

theorem namedBeneath_sublist (accepts : String → Bool) (node : Json) :
    node.namedBeneath accepts <+ node.beneath := by
  rw [namedBeneath_eq]
  exact List.filter_sublist.map _

/-! ## The entries of all nodes -/

/-- The entries of a node and of all nodes beneath it are its descendants. -/
theorem flatMap_entries_perm (node : Json) :
    node.selfAndBeneath.flatMap entries ~ node.descendants := by
  induction node using induction_entries with
  | step node ih =>
      have hbeneath : node.beneath.flatMap entries =
          node.entries.flatMap fun entry => entry.2.selfAndBeneath.flatMap entries := by
        rw [beneath_eq, children, List.flatMap_map, List.flatMap_assoc]
      calc
        node.selfAndBeneath.flatMap entries =
            node.entries ++ node.entries.flatMap
              fun entry => entry.2.selfAndBeneath.flatMap entries := by
          rw [selfAndBeneath_eq, List.flatMap_cons, hbeneath]
        _ ~ node.entries ++ node.entries.flatMap fun entry => entry.2.descendants :=
          (List.Perm.flatMap_left _ ih).append_left _
        _ ~ node.entries.flatMap withDescendants := by
          have hheads := List.map_append_flatMap_perm node.entries id
            fun entry => entry.2.descendants
          rwa [List.map_id] at hheads
        _ = node.descendants := node.descendants_eq.symm

/-- The children of a node and of all nodes beneath it are the nodes beneath it. -/
theorem flatMap_children_perm (node : Json) :
    node.selfAndBeneath.flatMap children ~ node.beneath := by
  have hentries := node.flatMap_entries_perm.map (·.2)
  rwa [List.map_flatMap] at hentries

end Json

end PathQuery
