/-!
# Lazy lists

The items of a lazy list are made one at a time: the rest of a list is a
function that makes it when it is asked for.  What a lazy list holds is the
list `toList`.
-/

namespace PathQuery

/-- A list whose rest is made on demand. -/
inductive LazyList (α : Type)
  | nil
  | cons (head : α) (tail : Unit → LazyList α)

namespace LazyList

variable {α β : Type}

/-- Every item. -/
def toList : LazyList α → List α
  | nil => []
  | cons head tail => head :: (tail ()).toList

/-- The items of a list. -/
def ofList : List α → LazyList α
  | [] => nil
  | item :: rest => cons item fun _ => ofList rest

/-- One item. -/
def single (item : α) : LazyList α :=
  cons item fun _ => nil

/-- The first item. -/
def head? : LazyList α → Option α
  | nil => none
  | cons head _ => some head

/-- One list after the other. -/
def append : LazyList α → (Unit → LazyList α) → LazyList α
  | nil, last => last ()
  | cons head tail, last => cons head fun _ => (tail ()).append last

/-- Replaces every item by the list that a function makes of it. -/
def flatMap (f : α → LazyList β) : LazyList α → LazyList β
  | nil => nil
  | cons head tail => (f head).append fun _ => (tail ()).flatMap f

/-- Applies a function to every item. -/
def map (f : α → β) : LazyList α → LazyList β
  | nil => nil
  | cons head tail => cons (f head) fun _ => (tail ()).map f

/-- Keeps what a function makes of the items. -/
def filterMap (f : α → Option β) : LazyList α → LazyList β
  | nil => nil
  | cons head tail =>
    match f head with
    | some item => cons item fun _ => (tail ()).filterMap f
    | none => (tail ()).filterMap f

@[simp] theorem toList_nil : (nil : LazyList α).toList = [] := rfl

@[simp] theorem toList_cons (head : α) (tail : Unit → LazyList α) :
    (cons head tail).toList = head :: (tail ()).toList := rfl

@[simp] theorem toList_single (item : α) : (single item).toList = [item] := rfl

@[simp] theorem toList_ofList (items : List α) : (ofList items).toList = items := by
  induction items with
  | nil => rfl
  | cons item rest ih => simp [ofList, ih]

@[simp] theorem toList_append (first : LazyList α) (last : Unit → LazyList α) :
    (first.append last).toList = first.toList ++ (last ()).toList := by
  induction first with
  | nil => rfl
  | cons head tail ih => simp [append, ih]

@[simp] theorem toList_flatMap (f : α → LazyList β) (items : LazyList α) :
    (items.flatMap f).toList = items.toList.flatMap fun item => (f item).toList := by
  induction items with
  | nil => rfl
  | cons head tail ih => simp [flatMap, ih]

@[simp] theorem toList_map (f : α → β) (items : LazyList α) :
    (items.map f).toList = items.toList.map f := by
  induction items with
  | nil => rfl
  | cons head tail ih => simp [map, ih]

@[simp] theorem toList_filterMap (f : α → Option β) (items : LazyList α) :
    (items.filterMap f).toList = items.toList.filterMap f := by
  induction items with
  | nil => rfl
  | cons head tail ih =>
    simp only [filterMap, toList_cons, List.filterMap_cons]
    cases f head <;> simp [ih]

@[simp] theorem head?_toList (items : LazyList α) : items.toList.head? = items.head? := by
  cases items <;> rfl

/-- Lists with the same items are equal, also in what they make on demand. -/
theorem eq_of_toList_eq {items others : LazyList α} (h : items.toList = others.toList) :
    items = others := by
  induction items generalizing others with
  | nil =>
      cases others with
      | nil => rfl
      | cons head tail => cases h
  | cons head tail ih =>
      cases others with
      | nil => cases h
      | cons head' tail' =>
          obtain ⟨rfl, htail⟩ := List.cons.inj h
          have hsame : tail = tail' := funext fun _ => ih () htail
          rw [hsame]

end LazyList

end PathQuery
