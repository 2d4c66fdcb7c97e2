import PathQuery.Proofs.Path.Parts

/-!
# Well-formed paths

The types of steps, conditions and operands hold more than a text can say: a
union of one name, a comparison without its right side, a root in the middle of
a path.  A path is well formed if none of its parts, at any depth, is such a
value.
-/

namespace PathQuery

namespace RegexLiteral

/-- If every slash of a text is escaped. -/
def SlashesEscaped (text : List Char) : Prop :=
  ∀ before after, text = before ++ '/' :: after → isEscaped before.reverse = true

/-- If the text of a literal is a body between two slashes with letters behind,
where every slash of the body is escaped. -/
def IsDelimited (literal : RegexLiteral) : Prop :=
  ∃ body letters : List Char,
    literal.text.toList = '/' :: (body ++ '/' :: letters) ∧
    SlashesEscaped body ∧ ∀ c ∈ letters, c.isAlpha = true

end RegexLiteral

/-- What a part of a well-formed path keeps to. -/
def Part.WellFormed : Part → Prop
  | .step (.members names) => 2 ≤ names.length
  | .step (.elements indices) => 2 ≤ indices.length
  | .step (.descendAny set) => 2 ≤ set.names.length
  | .step _ => True
  | .condition (.composite _ conditions) => 2 ≤ conditions.length
  | .condition (.comparison operator _ right) => operator = .present ↔ right = none
  | .operand (.path steps) => .root ∉ steps.tail
  | .operand (.literal value) => value.kind.isContainer = false
  | .operand (.regex literal) => literal.IsDelimited

/-- The steps of a well-formed path: the root stands only in front of an operand,
and every part is well formed. -/
structure WellFormedSteps (steps : List Step) : Prop where
  rootless : .root ∉ steps
  parts : ∀ part ∈ partsOfSteps steps, part.WellFormed

/-- The parts of some steps are those of each of them. -/
theorem partsOfSteps_append (steps others : List Step) :
    partsOfSteps (steps ++ others) = partsOfSteps steps ++ partsOfSteps others := by
  induction steps with
  | nil => rfl
  | cons step rest ih => simp only [List.cons_append, partsOfSteps, ih, List.append_assoc]

end PathQuery
