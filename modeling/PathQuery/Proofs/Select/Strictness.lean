import PathQuery.Proofs.Select.Agreement
import PathQuery.Proofs.Select.Sequence

/-!
# Strict settings

Where the settings are strict, a missing node is a failure.  Strict settings do what
lenient ones do, or fail; so the same holds of every condition, and the items of a
selection are the same up to the first failure of the strict one.  Main statement: a
strict selection that does not fail is the lenient one, and one that fails hands out
a beginning of it before.
-/

namespace PathQuery

/-- Strict settings do what lenient ones do, or fail. -/
theorem Settings.strictly_concur (settings : Settings) :
    settings.strictly.Concur (fun _ => True) settings.leniently where
  found error value? := by
    cases value? with
    | none => exact .stop trivial [] _
    | some value => exact .refl _
  timedMatch regex text := Concurs.refl _

namespace AgreesUntil

variable {stops : SelectError → Prop} {items others : List Item}

/-- Without a failure of the first list, the lists are equal. -/
theorem eq_of_no_error (h : AgreesUntil stops items others)
    (hno : ∀ error, .error error ∉ items) : others = items := by
  induction h with
  | nil => rfl
  | cons item _ ih => rw [ih fun error herror => hno error (List.mem_cons_of_mem _ herror)]
  | stop _ _ _ => exact absurd List.mem_cons_self (hno _)

/-- The nodes before a failure of the first list begin the second one. -/
theorem nodes_prefix {nodes : List Json} {rest : List Item} {error : SelectError}
    (h : AgreesUntil stops items others)
    (hitems : items = nodes.map .ok ++ .error error :: rest) : nodes.map .ok <+: others := by
  induction h generalizing nodes with
  | nil => simp at hitems
  | cons item _ ih =>
      cases nodes with
      | nil => exact List.nil_prefix
      | cons node nodes =>
          obtain ⟨hnode, hrest⟩ := List.cons.inj hitems
          rw [hnode, List.map_cons, List.prefix_cons_inj]
          exact ih hrest
  | stop _ _ _ =>
      cases nodes with
      | nil => exact List.nil_prefix
      | cons node nodes => cases (List.cons.inj hitems).1

theorem untilFailure (h : AgreesUntil stops items others) :
    AgreesUntil stops (PathQuery.untilFailure items) (PathQuery.untilFailure others) := by
  induction h with
  | nil => exact .nil
  | cons item _ ih =>
      cases item with
      | ok node => exact .cons _ ih
      | error error => exact .refl _
  | stop hstops _ _ => exact .stop hstops [] _

/-- Lists that agree make selecting at most one node concur. -/
theorem oneOf (h : AgreesUntil stops items others) :
    Concurs stops (PathQuery.oneOf (items.take 2)) (PathQuery.oneOf (others.take 2)) := by
  cases h with
  | nil => exact Concurs.refl _
  | stop hstops _ _ => exact Or.inr ⟨_, hstops, rfl⟩
  | cons first h =>
      cases first with
      | error error => exact Concurs.refl _
      | ok node =>
          cases h with
          | nil => exact Concurs.refl _
          | cons second _ => exact Concurs.refl _
          | stop hstops _ _ => exact Or.inr ⟨_, hstops, rfl⟩

end AgreesUntil

/-- A strict selection without a failure is the lenient selection, and the nodes of
one that fails begin the lenient selection.  A condition that is decided under strict
settings is decided alike under lenient ones, and so are selecting everything and
selecting at most one node where they succeed. -/
theorem strict_selection_refines_lenient (path : Path) (settings : Settings)
    (root current : Json) :
    let strictItems := (path.selectFrom settings.strictly root current).sequence
    let lenientItems := (path.selectFrom settings.leniently root current).sequence
    ((∀ error, .error error ∉ strictItems) → lenientItems = strictItems) ∧
    (∀ (nodes : List Json) error rest,
      strictItems = nodes.map .ok ++ .error error :: rest → nodes.map .ok <+: lenientItems) ∧
    (∀ (condition : Condition) answer,
      condition.holds settings.strictly root current = .ok answer →
        condition.holds settings.leniently root current = .ok answer) ∧
    (∀ nodes, path.selectAll settings.strictly root = .ok nodes →
      path.selectAll settings.leniently root = .ok nodes) ∧
    (∀ node?, path.selectOne settings.strictly root = .ok node? →
      path.selectOne settings.leniently root = .ok node?) := by
  intro strictItems lenientItems
  have hconcur := settings.strictly_concur
  have hitems : AgreesUntil (fun _ => True) strictItems lenientItems := by
    rw [show strictItems = _ from sequence_selectFrom _ _ _ _,
      show lenientItems = _ from sequence_selectFrom _ _ _ _]
    exact (eagerItems_agree hconcur root path.steps current).untilFailure
  have hwhole := eagerItems_agree hconcur root path.steps root
  refine ⟨hitems.eq_of_no_error, ?_, ?_, ?_, ?_⟩
  · intro nodes error rest hstrict
    exact hitems.nodes_prefix hstrict
  · intro condition answer hanswer
    exact (Condition.holds_concurs hconcur root condition current).eq_ok hanswer
  · intro nodes hnodes
    rw [Path.selectAll_eq_ok_iff] at hnodes ⊢
    rw [hwhole.eq_of_no_error, hnodes]
    intro error herror
    rw [hnodes] at herror
    simp at herror
  · intro node? hnode
    rw [Path.selectOne_eq] at hnode ⊢
    exact hwhole.oneOf.eq_ok hnode

end PathQuery
