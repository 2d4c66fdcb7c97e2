import PathQuery.Proofs.Path.Raised

/-!
# The contexts of faults

The context of a fault is read off its kind, so it tells what was being read only as far as the
kinds of the constructs differ.  Numbers and regular expressions have faults of their own; a
quoted constant has those of a quoted name.
-/

namespace PathQuery.Path

/-- The contexts that the faults of a construct bear. -/
def Construct.contexts : Construct → List Context
  | .path | .whole | .segments _ _ _ _ _ => [.path]
  | .indexer _ _ | .array _ | .names _ | .name | .string => [.indexer]
  | .filter _ _ => [.indexer, .predicate]
  | .predicate _ | .conditions _ _ _ | .term _ | .operand _ | .number | .regex | .operator =>
    [.predicate]

theorem context_mem_of_owns {construct : Construct} {fault : Fault}
    (h : construct.owns fault = true) : fault.context ∈ construct.contexts := by
  unfold Construct.owns at h
  split at h
  all_goals first
    | exact absurd h Bool.false_ne_true
    | simp [Fault.context, Construct.contexts]

/-! ## What constructs lead to -/

section Reached

/-- Names in brackets lead to names only. -/
theorem names_of_reached {first last : Call} (h : Relation.ReflTransGen Calls first last)
    (hfirst : first.construct = .name ∨ ∃ rounds, first.construct = .names rounds) :
    last.construct = .name ∨ ∃ rounds, last.construct = .names rounds := by
  induction h with
  | refl => exact hfirst
  | tail _ hcall ih =>
      cases hcall with
      | name => exact .inl rfl
      | nextName _ _ => exact .inr ⟨_, rfl⟩
      | _ => simp at ih

/-- A predicate at the beginning of a path text leads to the operand at its beginning. -/
theorem operand_reached {text : List Char} (hnonempty : text ≠ [])
    (hopen : (Text.skipBlanks text).head? ≠ some '(') :
    Relation.ReflTransGen Calls ⟨.path, '[' :: '?' :: '(' :: text⟩
      ⟨.operand (text.length + 2), text⟩ := by
  obtain ⟨c, rest, rfl⟩ := List.exists_cons_of_ne_nil hnonempty
  have hname : ∀ d ∈ ([] : List Char), isNameChar false d = true := by simp
  have hpath : Calls ⟨.path, '[' :: '?' :: '(' :: c :: rest⟩ _ := .unrooted rfl (by decide)
  refine .head hpath (.head .segments ?_)
  refine .head (.bracket hname fun _ => rfl) (.head (.filter rfl) (.head .predicate ?_))
  exact .head .disjunction (.head .conjunction (.head .term (.single (.left hopen))))

/-- A failure that a path text leads to is raised in a context of a construct that is reached
from there. -/
theorem exists_context {text : List Char} {call : Call} {failure : Failure}
    (hreached : Relation.ReflTransGen Calls ⟨.path, text⟩ call)
    (hfails : call.read = .error failure) :
    ∃ origin, Relation.ReflTransGen Calls call origin ∧
      failure.fault.context ∈ origin.construct.contexts := by
  obtain ⟨origin, horigin, hraises⟩ := exists_raises hfails
  have howns := hraises.owns (sized_of_reached (hreached.trans horigin))
  exact ⟨origin, horigin, context_mem_of_owns howns⟩

/-- A constant in a predicate makes no calls. -/
theorem eq_of_reached_constant {first last : Call} (h : Relation.ReflTransGen Calls first last)
    (hfirst : first.construct = .string ∨ first.construct = .number ∨
      first.construct = .regex) : last = first := by
  rcases h.cases_head with rfl | ⟨callee, hcall, -⟩
  · rfl
  · cases hcall with
    | _ => simp at hfirst

end Reached

/-! ## The context of an error -/

/-- Where a path text is refused, the fault belongs to a construct that was being read, and its
context is one of that construct: a number and a regular expression in a predicate fail in its
context, and names in brackets in that of an indexer.  So does a quoted constant, for its
faults are those of a quoted name. -/
theorem parse_error_context (text : String) :
    (∀ call failure, Relation.ReflTransGen Calls ⟨.path, text.toList⟩ call →
      call.read = .error failure →
      parse text = .error (failure.locate text.toList) ∧
      (call.construct = .number ∨ call.construct = .regex →
        failure.fault.context = .predicate) ∧
      (call.construct = .name ∨ (∃ rounds, call.construct = .names rounds) →
        failure.fault.context = .indexer) ∧
      (call.construct = .string → failure.fault.context = .indexer)) ∧
    ∀ error, parse text = .error error →
      ∃ call failure, Relation.ReflTransGen Calls ⟨.path, text.toList⟩ call ∧
        call.Raises failure ∧ error = failure.locate text.toList ∧
        call.construct.owns error.fault = true ∧
        error.fault.context ∈ call.construct.contexts := by
  constructor
  · intro call failure hreached hfails
    obtain ⟨origin, horigin, hcontext⟩ := exists_context hreached hfails
    refine ⟨parse_eq_error_of_reached hreached hfails, ?_, ?_, ?_⟩
    · intro hconstant
      rw [eq_of_reached_constant horigin (.inr hconstant)] at hcontext
      rcases hconstant with hnumber | hregex
      · rw [hnumber] at hcontext
        exact List.mem_singleton.1 hcontext
      · rw [hregex] at hcontext
        exact List.mem_singleton.1 hcontext
    · intro hnames
      rcases names_of_reached horigin hnames with hname | ⟨rounds, hnames⟩
      · rw [hname] at hcontext
        exact List.mem_singleton.1 hcontext
      · rw [hnames] at hcontext
        exact List.mem_singleton.1 hcontext
    · intro hstring
      rw [eq_of_reached_constant horigin (.inl hstring), hstring] at hcontext
      exact List.mem_singleton.1 hcontext
  · intro error herror
    obtain ⟨call, failure, hreached, hraises, rfl⟩ := exists_raises_of_parse herror
    have howns := hraises.owns (sized_of_reached hreached)
    exact ⟨call, failure, hreached, hraises, rfl, howns, context_mem_of_owns howns⟩

/-- A number that ends with its point. -/
theorem parse_error_context_number :
    parse "[?(1." = .error ⟨.invalidNumber "1.", 3⟩ ∧
      (Fault.invalidNumber "1.").context = .predicate := by
  have hreached : Relation.ReflTransGen Calls ⟨.path, "[?(1.".toList⟩ ⟨.number, ['1', '.']⟩ :=
    (operand_reached (by simp) (by decide)).tail (.number rfl rfl)
  have hfails : Call.read ⟨.number, ['1', '.']⟩ = .error ⟨.invalidNumber "1.", ['1', '.']⟩ := by
    rfl
  obtain ⟨hparse, hcontext, -⟩ := (parse_error_context "[?(1.").1 _ _ hreached hfails
  exact ⟨hparse, hcontext (.inl rfl)⟩

/-- A quoted constant in a predicate does not fail in the context of the predicate. -/
theorem not_constant_in_predicate_context :
    ¬ ∀ (text : String) (call : Call) (failure : Failure),
      Relation.ReflTransGen Calls ⟨.path, text.toList⟩ call → call.read = .error failure →
      call.construct = .string → failure.fault.context = .predicate := by
  intro h
  have hreached : Relation.ReflTransGen Calls ⟨.path, "[?('b".toList⟩ ⟨.string, ['b']⟩ :=
    (operand_reached (by simp) (by decide)).tail (.string rfl)
  have hfails : Call.read ⟨.string, ['b']⟩ = .error ⟨.openString, []⟩ := by rfl
  exact absurd (h _ _ _ hreached hfails rfl) (by decide)

end PathQuery.Path
