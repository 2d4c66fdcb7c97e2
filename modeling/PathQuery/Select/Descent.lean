import PathQuery.Json.Basic
import PathQuery.Select.LazyList

/-!
# Descent

The nodes beneath a node are visited with a stack of levels.  A level is what is
left of the entries of one container; the next entry is taken from the top level,
and if it is a container itself, its entries become a level above.  The result is
the pre-order that `Json.descendants` gives by recursion.
-/

namespace PathQuery

/-- A node with its name, if it is a member of an object. -/
abbrev Entry := Option String × Json

namespace Json

mutual

/-- The entries beneath a node in pre-order. -/
def descendants : Json → List Entry
  | array items => itemDescendants items
  | object members => memberDescendants members
  | _ => []

/-- The items of an array, each with what is beneath it. -/
def itemDescendants : List Json → List Entry
  | [] => []
  | item :: rest => (none, item) :: descendants item ++ itemDescendants rest

/-- The members of an object, each with what is beneath it. -/
def memberDescendants : List (String × Json) → List Entry
  | [] => []
  | (name, value) :: rest => (some name, value) :: descendants value ++ memberDescendants rest

end

/-- The number of nodes in some entries. -/
def stackSize (stack : List Entry) : Nat :=
  stack.foldr (fun entry total => entry.2.size + total) 0

@[simp] theorem stackSize_nil : stackSize [] = 0 := rfl

@[simp] theorem stackSize_cons (entry : Entry) (stack : List Entry) :
    stackSize (entry :: stack) = entry.2.size + stackSize stack := rfl

@[simp] theorem stackSize_append (first last : List Entry) :
    stackSize (first ++ last) = stackSize first + stackSize last := by
  induction first with
  | nil => simp
  | cons entry rest ih => rw [List.cons_append, stackSize_cons, ih, stackSize_cons, Nat.add_assoc]

theorem sizeItems_eq (items : List Json) :
    sizeItems items = stackSize (items.map fun item => (none, item)) := by
  induction items with
  | nil => rfl
  | cons item rest ih => simp [sizeItems, ih]

theorem sizeMembers_eq (members : List (String × Json)) :
    sizeMembers members = stackSize (members.map fun member => (some member.1, member.2)) := by
  induction members with
  | nil => rfl
  | cons member rest ih => simp [sizeMembers, ih]

/-- A node is larger than what it holds. -/
theorem stackSize_entries_lt (node : Json) : stackSize node.entries < node.size := by
  cases node with
  | array items => simp [entries, size, sizeItems_eq]
  | object members => simp [entries, size, sizeMembers_eq]
  | _ => simp [entries, size]

/-- Puts the entries of a container as a level on top of a stack. -/
def pushLevel (node : Json) (stack : List (List Entry)) : List (List Entry) :=
  if node.kind.isContainer then node.entries :: stack else stack

theorem entries_of_not_isContainer {node : Json} (h : node.kind.isContainer = false) :
    node.entries = [] := by
  cases node with
  | array items => simp [kind, Kind.isContainer] at h
  | object members => simp [kind, Kind.isContainer] at h
  | _ => rfl

@[simp] theorem flatten_pushLevel (node : Json) (stack : List (List Entry)) :
    (pushLevel node stack).flatten = node.entries ++ stack.flatten := by
  unfold pushLevel
  split
  · rfl
  · rename_i h
    rw [entries_of_not_isContainer (by simpa using h), List.nil_append]

/-- Visits the entries on the levels of a stack and everything beneath them. -/
def visit : List (List Entry) → LazyList Entry
  | [] => .nil
  | [] :: stack => visit stack
  | (entry :: level) :: stack =>
    .cons entry fun _ => visit (pushLevel entry.2 (level :: stack))
termination_by stack => (stackSize stack.flatten, stack.length)
decreasing_by
  · simp only [List.flatten_cons, List.nil_append]
    exact Prod.Lex.right _ (Nat.lt_succ_self _)
  · have := stackSize_entries_lt entry.2
    apply Prod.Lex.left
    simp only [flatten_pushLevel, List.flatten_cons, List.cons_append, stackSize_append,
      stackSize_cons]
    omega

/-- The node and every node beneath it. -/
def visitAll (node : Json) : LazyList Json :=
  .cons node fun _ => (visit [node.entries]).map (·.2)

/-- The members beneath a node whose name is accepted. -/
def visitNamed (accepts : String → Bool) (node : Json) : LazyList Json :=
  (visit [node.entries]).filterMap fun entry =>
    match entry.1 with
    | some name => if accepts name then some entry.2 else none
    | none => none

end Json

end PathQuery
