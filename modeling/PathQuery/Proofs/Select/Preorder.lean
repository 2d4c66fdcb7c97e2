import PathQuery.Select.Descent

/-!
# The order of a descent

What a stack of levels still visits is determined by the entries on it: each of
them, followed by everything beneath it.  A walk that starts with the entries of a
node therefore visits the descendants of the node in pre-order.
-/

namespace PathQuery.Json

/-- An entry followed by everything beneath it. -/
def withDescendants (entry : Entry) : List Entry :=
  entry :: entry.2.descendants

theorem itemDescendants_eq (items : List Json) :
    itemDescendants items =
      (items.map fun item => (none, item)).flatMap withDescendants := by
  induction items with
  | nil => rfl
  | cons item rest ih => simp [itemDescendants, withDescendants, ih]

theorem memberDescendants_eq (members : List (String × Json)) :
    memberDescendants members =
      (members.map fun member => (some member.1, member.2)).flatMap withDescendants := by
  induction members with
  | nil => rfl
  | cons member rest ih => simp [memberDescendants, withDescendants, ih]

/-- The descendants of a node are its entries, each with what is beneath it. -/
theorem descendants_eq (node : Json) :
    node.descendants = node.entries.flatMap withDescendants := by
  cases node with
  | array items => rw [descendants, entries, itemDescendants_eq]
  | object members => rw [descendants, entries, memberDescendants_eq]
  | _ => rfl

/-- A stack visits its entries from the top level down, each with everything
beneath it; a level that has been pushed stands for what is beneath its
container. -/
theorem toList_visit (stack : List (List Entry)) :
    (visit stack).toList = stack.flatten.flatMap withDescendants := by
  fun_induction visit stack with
  | case1 => rfl
  | case2 stack ih => rw [ih, List.flatten_cons, List.nil_append]
  | case3 entry level stack ih =>
      rw [LazyList.toList_cons, ih, flatten_pushLevel, List.flatMap_append,
        ← descendants_eq, List.flatten_cons, List.flatten_cons, List.cons_append,
        List.flatMap_cons]
      rfl

@[simp] theorem toList_visit_entries (node : Json) :
    (visit [node.entries]).toList = node.descendants := by
  rw [toList_visit, descendants_eq]
  simp

end PathQuery.Json
