import PathQuery.Proofs.Select.Eager
import PathQuery.Select.Selection

/-!
# What a selection hands out

A selection is asked for its next item again and again.  The answers are the items
of the evaluation up to the first failure, then the end for ever, and the selection
has ended exactly from the first answer on that is no node.  Main statement: these
answers, and the functions that select everything or at most one node, are read off
the eager items of the path.
-/

namespace PathQuery

/-- The settings under which a missing node is a failure. -/
def Settings.strictly (settings : Settings) : Settings :=
  { settings with strict := true }

/-- The settings under which a missing node is passed over. -/
def Settings.leniently (settings : Settings) : Settings :=
  { settings with strict := false }

/-- The items up to the first failure, which is the last of them. -/
def untilFailure : List Item → List Item
  | [] => []
  | .ok node :: rest => .ok node :: untilFailure rest
  | .error error :: _ => [.error error]

/-- What selecting at most one node makes of some items. -/
def oneOf : List Item → Except SelectError (Option Json)
  | [] => .ok none
  | [.ok node] => .ok (some node)
  | .error error :: _ => .error error
  | .ok _ :: .error error :: _ => .error error
  | .ok _ :: .ok _ :: _ => .error .multipleResults

/-- At most one node is found where the items are that node or none. -/
theorem oneOf_take_eq_ok_iff (items : List Item) (found : Option Json) :
    oneOf (items.take 2) = .ok found ↔ items = found.toList.map .ok := by
  match items with
  | [] => cases found <;> simp [oneOf]
  | [.ok node] => cases found <;> simp [oneOf]
  | .error error :: _ => cases found <;> simp [oneOf]
  | .ok _ :: .error error :: _ => cases found <;> simp [oneOf]
  | .ok _ :: .ok _ :: _ => cases found <;> simp [oneOf]

namespace Selection

/-- A selection after it has been asked a number of times. -/
def after : Selection → Nat → Selection
  | selection, 0 => selection
  | selection, calls + 1 => selection.next.2.after calls

/-- What a selection answers after it has been asked a number of times before. -/
def answer (selection : Selection) (calls : Nat) : Option Item :=
  (selection.after calls).next.1

theorem next_of_done {selection : Selection} (h : selection.done = true) :
    selection.next = (none, selection) := by
  rw [next, if_pos h]

/-- A selection that has ended stays as it is. -/
theorem after_of_done {selection : Selection} (h : selection.done = true) (calls : Nat) :
    selection.after calls = selection := by
  induction calls with
  | zero => rfl
  | succ calls ih => rw [after, next_of_done h, ih]

theorem answer_of_done {selection : Selection} (h : selection.done = true) (calls : Nat) :
    selection.answer calls = none := by
  rw [answer, after_of_done h, next_of_done h]

theorem answer_succ (selection : Selection) (calls : Nat) :
    selection.answer (calls + 1) = selection.next.2.answer calls := rfl

/-- The answers of a selection are its items up to the first failure, and then the
end. -/
theorem answer_eq (items : LazyList Item) (calls : Nat) :
    (⟨items, false⟩ : Selection).answer calls = (untilFailure items.toList)[calls]? := by
  induction items generalizing calls with
  | nil =>
      cases calls with
      | zero => rfl
      | succ calls => exact answer_of_done rfl calls
  | cons item rest ih =>
      cases item with
      | ok node =>
          cases calls with
          | zero => rfl
          | succ calls =>
              rw [answer_succ]
              exact ih () calls
      | error error =>
          cases calls with
          | zero => rfl
          | succ calls =>
              rw [answer_succ]
              exact answer_of_done rfl calls

/-- The items that a selection still hands out. -/
def sequence (selection : Selection) : List Item :=
  if selection.done then [] else untilFailure selection.items.toList

/-- The sequence of a selection is what it answers, one call after the other. -/
theorem getElem?_sequence (selection : Selection) (calls : Nat) :
    selection.sequence[calls]? = selection.answer calls := by
  obtain ⟨items, done⟩ := selection
  cases done with
  | true =>
      rw [answer_of_done rfl]
      rfl
  | false => exact (answer_eq items calls).symm

/-- A selection has ended once an answer was a failure or the end, and not before. -/
theorem done_after_iff (items : LazyList Item) (calls : Nat) :
    ((⟨items, false⟩ : Selection).after calls).done = true ↔
      ∃ earlier < calls, ∀ node,
        (⟨items, false⟩ : Selection).answer earlier ≠ some (.ok node) := by
  induction items generalizing calls with
  | nil =>
      cases calls with
      | zero => simp [after]
      | succ calls =>
          rw [after, after_of_done rfl]
          exact iff_of_true rfl ⟨0, Nat.succ_pos calls, by simp [answer, after, next]⟩
  | cons item rest ih =>
      cases item with
      | ok node =>
          cases calls with
          | zero => simp [after]
          | succ calls =>
              have hafter : (⟨.cons (.ok node) rest, false⟩ : Selection).after (calls + 1) =
                  (⟨rest (), false⟩ : Selection).after calls := rfl
              rw [hafter, ih ()]
              constructor
              · rintro ⟨earlier, hlt, hanswer⟩
                exact ⟨earlier + 1, Nat.succ_lt_succ hlt, hanswer⟩
              · rintro ⟨earlier, hlt, hanswer⟩
                cases earlier with
                | zero => exact absurd rfl (hanswer node)
                | succ earlier => exact ⟨earlier, Nat.lt_of_succ_lt_succ hlt, hanswer⟩
      | error error =>
          cases calls with
          | zero => simp [after]
          | succ calls =>
              rw [after, after_of_done rfl]
              exact iff_of_true rfl ⟨0, Nat.succ_pos calls, by simp [answer, after, next]⟩

/-! ## Selecting everything, or at most one node -/

theorem collect_eq_ok_iff (items : LazyList Item) (nodes : List Json) :
    collect items = .ok nodes ↔ items.toList = nodes.map .ok := by
  induction items generalizing nodes with
  | nil =>
      rw [collect, LazyList.toList_nil]
      constructor
      · intro h
        cases h
        rfl
      · intro h
        rw [List.map_eq_nil_iff.1 h.symm]
  | cons item rest ih =>
      cases item with
      | error error =>
          rw [collect, LazyList.toList_cons]
          constructor
          · intro h
            cases h
          · intro h
            cases nodes with
            | nil => cases h
            | cons node nodes => cases (List.cons.inj h).1
      | ok node =>
          rw [collect, LazyList.toList_cons]
          constructor
          · intro h
            cases hrest : collect (rest ()) with
            | error error =>
                rw [hrest] at h
                cases h
            | ok others =>
                rw [hrest] at h
                cases h
                rw [List.map_cons, (ih () others).1 hrest]
          · intro h
            cases nodes with
            | nil => cases h
            | cons first others =>
                obtain ⟨hfirst, hothers⟩ := List.cons.inj h
                cases hfirst
                rw [(ih () others).2 hothers]
                rfl

theorem collect_eq_error_iff (items : LazyList Item) (error : SelectError) :
    collect items = .error error ↔
      ∃ (nodes : List Json) (rest : List Item),
        items.toList = nodes.map .ok ++ .error error :: rest := by
  induction items with
  | nil =>
      rw [collect, LazyList.toList_nil]
      constructor
      · intro h
        cases h
      · rintro ⟨nodes, rest, h⟩
        simp at h
  | cons item tail ih =>
      cases item with
      | error found =>
          rw [collect, LazyList.toList_cons]
          constructor
          · intro h
            cases h
            exact ⟨[], (tail ()).toList, rfl⟩
          · rintro ⟨nodes, rest, h⟩
            cases nodes with
            | nil => cases (List.cons.inj h).1; rfl
            | cons node nodes => cases (List.cons.inj h).1
      | ok node =>
          rw [collect, LazyList.toList_cons]
          constructor
          · intro h
            cases htail : collect (tail ()) with
            | ok others =>
                rw [htail] at h
                cases h
            | error found =>
                rw [htail] at h
                cases h
                obtain ⟨nodes, rest, heq⟩ := (ih ()).1 htail
                exact ⟨node :: nodes, rest, by rw [heq]; rfl⟩
          · rintro ⟨nodes, rest, h⟩
            cases nodes with
            | nil => cases (List.cons.inj h).1
            | cons first nodes =>
                rw [(ih ()).2 ⟨nodes, rest, (List.cons.inj h).2⟩]
                rfl

/-- The first two items decide what selecting at most one node answers. -/
theorem one_eq (items : LazyList Item) :
    (⟨items, false⟩ : Selection).one = oneOf (items.toList.take 2) := by
  cases items with
  | nil => rfl
  | cons item rest =>
      cases item with
      | error error => rfl
      | ok node =>
          cases hrest : rest () with
          | nil => simp [one, next, hrest, oneOf, bind, Except.bind, pure, Except.pure]
          | cons second others =>
              cases second with
              | error error => simp [one, next, hrest, oneOf, bind, Except.bind]
              | ok other =>
                  simp [one, next, hrest, oneOf, bind, Except.bind, throw, throwThe,
                    MonadExceptOf.throw]

end Selection

namespace Path

variable (path : Path) (settings : Settings) (root : Json)

theorem selectAll_eq_ok_iff (nodes : List Json) :
    path.selectAll settings root = .ok nodes ↔
      eagerItems settings path.steps root root = nodes.map .ok := by
  rw [← toList_evaluate]
  exact Selection.collect_eq_ok_iff _ nodes

theorem selectAll_eq_error_iff (error : SelectError) :
    path.selectAll settings root = .error error ↔
      ∃ (nodes : List Json) (rest : List Item),
        eagerItems settings path.steps root root = nodes.map .ok ++ .error error :: rest := by
  rw [← toList_evaluate]
  exact Selection.collect_eq_error_iff _ error

theorem selectOne_eq :
    path.selectOne settings root =
      oneOf ((eagerItems settings path.steps root root).take 2) := by
  rw [← toList_evaluate]
  exact Selection.one_eq _

theorem selectOne_eq_ok_iff (found : Option Json) :
    path.selectOne settings root = .ok found ↔
      eagerItems settings path.steps root root = found.toList.map .ok := by
  rw [selectOne_eq]
  exact oneOf_take_eq_ok_iff _ found

end Path

theorem sequence_selectFrom (path : Path) (settings : Settings) (root current : Json) :
    (path.selectFrom settings root current).sequence =
      untilFailure (eagerItems settings path.steps root current) := by
  rw [← toList_evaluate]
  rfl

/-- A lazy selection equals the eager evaluation of its path, in which every step
has all its outputs as results.  The answers are the eager items up to the first
failure, followed by the end for ever, and the selection has ended from the first
answer on that is no node.  Selecting everything succeeds with the eager items if
none of them is a failure, and fails with the first failure otherwise; selecting at
most one node depends on the first two eager items alone. -/
theorem selection_eq_eager (path : Path) (settings : Settings) (root current : Json) :
    let selection := path.selectFrom settings root current
    let items := untilFailure (eagerItems settings path.steps root current)
    let wholeItems := eagerItems settings path.steps root root
    (∀ step node,
      (Step.outputs settings root step node).toList = settings.results root step node) ∧
    (∀ calls, selection.answer calls = items[calls]?) ∧
    (∀ calls, (selection.after calls).done = true ↔
      ∃ earlier < calls, ∀ node, items[earlier]? ≠ some (.ok node)) ∧
    (∀ nodes, path.selectAll settings root = .ok nodes ↔ wholeItems = nodes.map .ok) ∧
    (∀ error, path.selectAll settings root = .error error ↔
      ∃ (nodes : List Json) (rest : List Item),
        wholeItems = nodes.map .ok ++ .error error :: rest) ∧
    path.selectOne settings root = oneOf (wholeItems.take 2) := by
  intro selection items wholeItems
  have hanswer : ∀ calls, selection.answer calls = items[calls]? := by
    intro calls
    rw [← Selection.getElem?_sequence]
    exact congrArg (·[calls]?) (sequence_selectFrom path settings root current)
  refine ⟨toList_outputs settings root, hanswer, ?_, ?_, ?_, ?_⟩
  · intro calls
    have hdone := Selection.done_after_iff (evaluate settings path.steps root current) calls
    simp only [← hanswer]
    exact hdone
  · exact path.selectAll_eq_ok_iff settings root
  · exact path.selectAll_eq_error_iff settings root
  · exact path.selectOne_eq settings root

end PathQuery
