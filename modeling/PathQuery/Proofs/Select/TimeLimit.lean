import PathQuery.Proofs.Select.Strictness

/-!
# Limits on matches

A limit on the time of a match makes a match fail or leaves it as it is.  Which matches
exceed the limit is part of the settings and may be any of them.  A failed match ends the
selection at once, however deep in a condition it stands: it is never taken for a condition
that does not hold, nor for an operand without a node.  Main statement: with a limit a path
hands out what it does without one, or a beginning of it and then the failure of a match
that exceeds the limit.
-/

namespace PathQuery

/-- The settings without a limit on matches. -/
def Settings.unlimited (settings : Settings) : Settings :=
  { settings with regexLimit := none }

/-- If a failure is that of a match which exceeds the limit. -/
def Settings.TimesOut (settings : Settings) (error : SelectError) : Prop :=
  ∃ regex text limit, settings.exceeded regex text = some limit ∧
    error = .regexTimeout regex.pattern limit

theorem Settings.exceeded_unlimited (settings : Settings) (regex : RegexLiteral)
    (text : String) : settings.unlimited.exceeded regex text = none := rfl

/-- A match that does not exceed the limit has the outcome that it has without one. -/
theorem Settings.timedMatch_unlimited (settings : Settings) (regex : RegexLiteral)
    (text : String) :
    Concurs settings.TimesOut (settings.timedMatch regex text)
      (settings.unlimited.timedMatch regex text) := by
  rw [Settings.timedMatch, Settings.timedMatch, exceeded_unlimited]
  cases hexceeded : settings.exceeded regex text with
  | none => exact Concurs.refl _
  | some limit =>
      have htimesOut : settings.TimesOut (.regexTimeout regex.pattern limit) :=
        ⟨regex, text, limit, hexceeded, rfl⟩
      exact Or.inr ⟨_, htimesOut, rfl⟩

/-- Settings with a limit do what those without one do, or a match exceeds the limit. -/
theorem Settings.concur_unlimited (settings : Settings) :
    settings.Concur settings.TimesOut settings.unlimited where
  found _ _ := .refl _
  timedMatch := settings.timedMatch_unlimited

section Stopped

variable {stops : SelectError → Prop}

/-- Up to the first failure, two lists that agree are equal, or the first one is a beginning
of the other with a failure behind it that stops the comparison. -/
theorem AgreesUntil.untilFailure_eq_or {items others : List Item}
    (h : AgreesUntil stops items others) :
    PathQuery.untilFailure items = PathQuery.untilFailure others ∨
      ∃ (nodes : List Json) (error : SelectError), stops error ∧
        PathQuery.untilFailure items = nodes.map .ok ++ [.error error] ∧
        nodes.map .ok <+: PathQuery.untilFailure others := by
  induction h with
  | nil => exact Or.inl rfl
  | @cons item items others _ ih =>
      cases item with
      | error error => exact Or.inl rfl
      | ok node =>
          rw [PathQuery.untilFailure, PathQuery.untilFailure]
          obtain heq | ⟨nodes, error, hstops, hitems, hfront⟩ := ih
          · exact Or.inl (by rw [heq])
          · refine Or.inr ⟨node :: nodes, error, hstops, ?_, ?_⟩
            · rw [hitems, List.map_cons, List.cons_append]
            · rw [List.map_cons]
              exact (List.prefix_cons_inj _).2 hfront
  | @stop error hstops items others =>
      exact Or.inr ⟨[], error, hstops, rfl, List.nil_prefix⟩

/-- Lists that agree make selecting everything concur. -/
theorem AgreesUntil.collect {items others : LazyList Item}
    (h : AgreesUntil stops items.toList others.toList) :
    Concurs stops (Selection.collect items) (Selection.collect others) := by
  induction items generalizing others with
  | nil =>
      cases others with
      | nil => exact Concurs.refl _
      | cons item rest => cases h
  | cons item tail ih =>
      rw [LazyList.toList_cons] at h
      generalize hothers : others.toList = list at h
      cases h with
      | stop hstops _ _ => exact Or.inr ⟨_, hstops, rfl⟩
      | cons _ hrest =>
          cases others with
          | nil => cases hothers
          | cons other rest =>
              obtain ⟨rfl, rfl⟩ := List.cons.inj hothers
              cases other with
              | error error => exact Concurs.refl _
              | ok node =>
                  rw [Selection.collect, Selection.collect]
                  exact (ih () hrest).map _

end Stopped

/-- With a limit on matches a path selects what it does without one, or a beginning of it
and then, in the place of the next item, the failure of a match that exceeds the limit.
Selecting everything, selecting at most one node and deciding a condition have the outcome
that they have without a limit, or fail in this way. -/
theorem limit_never_changes_answers (path : Path) (settings : Settings)
    (root current : Json) :
    let items := (path.selectFrom settings root current).sequence
    let unlimitedItems := (path.selectFrom settings.unlimited root current).sequence
    (items = unlimitedItems ∨
      ∃ (nodes : List Json) (error : SelectError), settings.TimesOut error ∧
        items = nodes.map .ok ++ [.error error] ∧ nodes.map .ok <+: unlimitedItems) ∧
    Concurs settings.TimesOut (path.selectAll settings root)
      (path.selectAll settings.unlimited root) ∧
    Concurs settings.TimesOut (path.selectOne settings root)
      (path.selectOne settings.unlimited root) ∧
    ∀ condition : Condition,
      condition.holds settings root current = condition.holds settings.unlimited root current ∨
        ∃ error, settings.TimesOut error ∧
          condition.holds settings root current = .error error := by
  intro items unlimitedItems
  have hconcur := settings.concur_unlimited
  have hitems := eagerItems_agree hconcur root path.steps current
  have hwhole := eagerItems_agree hconcur root path.steps root
  refine ⟨?_, ?_, ?_, ?_⟩
  · have hanswers := hitems.untilFailure_eq_or
    rwa [← sequence_selectFrom, ← sequence_selectFrom] at hanswers
  · apply AgreesUntil.collect
    rw [← toList_evaluate, ← toList_evaluate] at hwhole
    exact hwhole
  · rw [Path.selectOne_eq, Path.selectOne_eq]
    exact hwhole.oneOf
  · intro condition
    exact Condition.holds_concurs hconcur root condition current

/-- A match that exceeds the limit fails out of an operand, although the condition behind it
holds of every node. -/
example (regex : RegexLiteral) :
    let slow : Condition := .comparison .matchesRegex (.path []) (some (.regex regex))
    let path : Path := ⟨"", [.filter (.composite .or
      [.comparison .present (.path [.filter slow]) none, .comparison .present (.path []) none])]⟩
    let current : Json := .array [.array [.null], .array [.string "a"], .array []]
    (path.selectFrom { regexLimit := some 0 } current current).sequence =
      [.ok (.array [.null]), .error (.regexTimeout regex.pattern 0)] := by
  intro slow path current
  rw [sequence_selectFrom]
  rfl

end PathQuery
