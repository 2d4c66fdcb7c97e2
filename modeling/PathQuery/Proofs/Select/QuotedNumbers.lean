import PathQuery.Proofs.Number.NumeralReading
import PathQuery.Proofs.Path.Concatenation
import PathQuery.Proofs.Path.RoundTrip
import PathQuery.Proofs.Select.Comparisons
import PathQuery.Proofs.Select.DescentSteps

/-!
# Numbers between quotes

A number in a predicate is read once, with the path; a string between quotes is read as a
number whenever it meets one, by each comparison in its own way.  Main statement: for a node
that is a number both are the same, on either side of the operators that compare values, so
a filter selects the same numbers with the quotes and without them.
-/

namespace PathQuery

namespace Operator

/-- The operators that compare values, also across kinds. -/
def valueOperators : List Operator :=
  [.equals, .notEquals, .less, .lessOrEqual, .greater, .greaterOrEqual]

variable {operator : Operator}

theorem mirror_mem_valueOperators (h : operator ∈ valueOperators) :
    operator.mirror ∈ valueOperators := by
  cases operator <;> first | decide | exact absurd h (by decide)

theorem ne_of_mem_valueOperators (h : operator ∈ valueOperators) :
    operator ≠ .matchesRegex ∧ operator ≠ .present := by
  constructor <;> rintro rfl <;> exact absurd h (by decide)

/-- Whether two nodes are of one kind does not matter to these operators. -/
theorem decides_strict (h : operator ∈ valueOperators) (loose strict strict' : Bool)
    (order : Ordering) :
    operator.decides loose strict order = operator.decides loose strict' order := by
  cases operator <;> first | rfl | exact absurd h (by decide)

end Operator

/-! ## Comparing with a number -/

section Comparing

variable {settings : Settings} {given : Option RegexLiteral} {operator : Operator}
  {a value : Number} {text : String}

/-- A string that denotes a number is compared with numbers as that number. -/
theorem finds_number_string (htext : value.IsText text.toList)
    (h : operator ∈ Operator.valueOperators) :
    settings.finds given operator (.number a) (.string text) =
      settings.finds given operator (.number a) (.number value) := by
  have hregex := (Operator.ne_of_mem_valueOperators h).1
  have hvalue : Json.numberOf? text = some value := Number.ofText?_eq_some_iff.2 htext
  have hloose : (Json.number a).looseEquals (.string text) =
      (Json.number a).looseEquals (.number value) := by
    simp only [Json.looseEquals, hvalue, Option.any_some]
  have horder : (Json.number a).order (.string text) = (Json.number a).order (.number value) := by
    simp only [Json.order, hvalue]
  rw [Settings.finds_scalar rfl rfl hregex, Settings.finds_scalar rfl rfl hregex, hloose, horder]
  exact Operator.decides_strict h _ _ _ _

theorem finds_string_number (htext : value.IsText text.toList)
    (h : operator ∈ Operator.valueOperators) :
    settings.finds given operator (.string text) (.number a) =
      settings.finds given operator (.number value) (.number a) := by
  have hregex := (Operator.ne_of_mem_valueOperators h).1
  rw [Settings.finds_mirror hregex, Settings.finds_mirror hregex]
  exact finds_number_string htext (Operator.mirror_mem_valueOperators h)

end Comparing

/-! ## The texts of the filters -/

namespace Path

/-- What is read as a number up to the end of a text is a number that the text denotes. -/
theorem readNumber_eq_ok {text : List Char} {literal : Json}
    (h : readNumber text = .ok (literal, [])) :
    ∃ value : Number, literal = .number value ∧ value.IsText text := by
  unfold readNumber at h
  simp only at h
  split at h
  next value hvalue =>
    obtain ⟨rfl, hrest⟩ := Prod.mk.inj (Except.ok.inj h)
    have hwhole := List.takeWhile_append_dropWhile (p := isNumberChar) (l := text)
    rw [hrest, List.append_nil] at hwhole
    rw [hwhole] at hvalue
    exact ⟨value, rfl, Number.ofText?_eq_some_iff.1 hvalue⟩
  next => cases h

/-- A text without quotes and backslashes stands for itself between quotes. -/
theorem quotedText_self {text : List Char} (h : ∀ c ∈ text, c ≠ '\'' ∧ c ≠ '\\') :
    QuotedText text text := by
  induction text with
  | nil => exact .nil
  | cons c rest ih =>
    obtain ⟨hquote, hbackslash⟩ := h c List.mem_cons_self
    exact .raw hquote hbackslash (ih fun d hd => h d (List.mem_cons_of_mem _ hd))

theorem quotedText_number {value : Number} {text : List Char} (h : value.IsText text) :
    QuotedText text text := by
  obtain ⟨numeral, hnumeral, -⟩ := h
  apply quotedText_self
  intro c hc
  have hchar := hnumeral.chars c hc
  constructor <;> rintro rfl <;> exact absurd hchar (by decide)

/-- The text of a filter that compares, with blanks around the sign of the operator. -/
def comparisonText (left : String) (operator : Operator) (right : String) : String :=
  "[?(" ++ left ++ " " ++ operator.symbol ++ " " ++ right ++ ")]"

/-- A filter that compares is read from the texts of its operands. -/
theorem parse_comparisonText {left right : Operand} {leftText rightText : String}
    {operator : Operator} (hoperator : operator ≠ .present)
    (hleft : Written (.operand left) leftText.toList)
    (hright : Written (.operand right) rightText.toList)
    (hleftForm : (Phrase.operand left).WellFormed)
    (hrightForm : (Phrase.operand right).WellFormed) :
    parse (comparisonText leftText operator rightText) =
      .ok ⟨comparisonText leftText operator rightText,
        [.filter (.comparison operator left (some right))]⟩ := by
  have hblank : Text.Blanks [' '] := by simp [Text.Blanks, Text.isBlank]
  have hterm := Written.compared hleft ⟨[], [' '], Text.blanks_nil, hblank, rfl⟩
    (.symbol hoperator) hright ⟨[' '], [], hblank, Text.blanks_nil, rfl⟩
  have hpath : Written (.segments false [.filter (.comparison operator left (some right))]) _ :=
    .bracketed .none (.filter (.oneConjunction (.oneTerm hterm)) (Text.Spaced.refl _)) .noSegments
  have hform : (Phrase.segments false
      [.filter (.comparison operator left (some right))]).WellFormed := by
    intro part hpart
    simp only [Phrase.parts, partsOfSteps, Step.parts, Condition.parts, partsOfRight,
      List.append_nil, List.mem_cons, List.mem_append] at hpart
    rcases hpart with rfl | rfl | hpart | hpart
    · trivial
    · simp [Part.WellFormed, hoperator]
    · exact hleftForm part hpart
    · exact hrightForm part hpart
  have hwhole := wholePath_segments (hpath.reads hform) Text.blanks_nil
  rw [parse_eq_ok_iff, comparisonText]
  simp only [String.toList_append]
  have hread := (mark_of_head? (Or.inr rfl)).2.2.2.trans hwhole
  simpa using hread

theorem written_node : Written (.operand (.path [])) "@".toList :=
  .fromNode .noSegments

theorem wellFormed_node : (Phrase.operand (.path [])).WellFormed := by
  simp [Phrase.WellFormed, Phrase.parts, Operand.parts, partsOfSteps, Part.WellFormed]

theorem wellFormed_literal {value : Json} (h : value.kind.isContainer = false) :
    (Phrase.operand (.literal value)).WellFormed := by
  simpa [Phrase.WellFormed, Phrase.parts, Operand.parts, Part.WellFormed] using h

section Literals

variable {value : Json} {text : String} {operator : Operator}

/-- A filter that compares each child with a constant, in this order. -/
theorem parse_node_literal (hoperator : operator ≠ .present)
    (hvalue : value.kind.isContainer = false) (htext : LiteralText value text.toList) :
    parse (comparisonText "@" operator text) = .ok ⟨comparisonText "@" operator text,
      [.filter (.comparison operator (.path []) (some (.literal value)))]⟩ :=
  parse_comparisonText hoperator written_node (.literal htext) wellFormed_node
    (wellFormed_literal hvalue)

/-- A filter that compares a constant with each child, in this order. -/
theorem parse_literal_node (hoperator : operator ≠ .present)
    (hvalue : value.kind.isContainer = false) (htext : LiteralText value text.toList) :
    parse (comparisonText text operator "@") = .ok ⟨comparisonText text operator "@",
      [.filter (.comparison operator (.literal value) (some (.path [])))]⟩ :=
  parse_comparisonText hoperator (.literal htext) written_node (wellFormed_literal hvalue)
    wellFormed_node

end Literals

end Path

/-! ## The nodes that are selected -/

section Selecting

variable {settings : Settings} {root : Json}

/-- A filter whose condition is decided for every node selects the children for which it
holds. -/
theorem sequence_filter {condition : Condition} {found : Json → Bool}
    (h : ∀ node, condition.holds settings root node = .ok (found node)) (text : String)
    (current : Json) :
    ((⟨text, [.filter condition]⟩ : Path).selectFrom settings root current).sequence =
      (current.children.filter found).map .ok := by
  have hdecides : ∀ node ∈ current.children,
      decides (condition.holds settings root) node = true := by
    intro node _
    rw [decides, h node]
    rfl
  have hmatched : matched (condition.holds settings root) = found := by
    funext node
    rw [matched, h node]
  rw [sequence_selectFrom, eagerItems_single, Settings.results, untilFailure_keptNodes,
    List.takeWhile_eq_self_iff.2 hdecides, List.dropWhile_eq_nil_iff.2 hdecides, hmatched]
  exact List.append_nil _

variable {operator : Operator}

/-- A comparison of a node with a literal on its right. -/
theorem holds_node_literal (h : operator ∈ Operator.valueOperators) (value node : Json) :
    (Condition.comparison operator (.path []) (some (.literal value))).holds settings root node =
      .ok (settings.finds none operator node value) := by
  obtain ⟨hregex, hpresent⟩ := Operator.ne_of_mem_valueOperators h
  rw [← Settings.holdsBetween_eq hregex, Condition.holds, first_path]
  simp [eagerItems, resultsFrom, firstItem, firstRight, Operand.first, Operand.regex?, hpresent,
    bind, Except.bind, pure, Except.pure]

/-- A comparison of a node with a literal on its left. -/
theorem holds_literal_node (h : operator ∈ Operator.valueOperators) (value node : Json) :
    (Condition.comparison operator (.literal value) (some (.path []))).holds settings root node =
      .ok (settings.finds none operator value node) := by
  obtain ⟨hregex, hpresent⟩ := Operator.ne_of_mem_valueOperators h
  rw [← Settings.holdsBetween_eq hregex, Condition.holds, firstRight, first_path]
  simp [eagerItems, resultsFrom, firstItem, Operand.first, Operand.regex?, hpresent,
    bind, Except.bind, pure, Except.pure]

end Selecting

/-- Values that are kept by one of two tests are the same where both tests agree. -/
theorem filter_filter_congr {α : Type} {test other wanted : α → Bool} {values : List α}
    (h : ∀ value, wanted value = true → test value = other value) :
    (values.filter test).filter wanted = (values.filter other).filter wanted := by
  rw [List.filter_filter, List.filter_filter]
  apply List.filter_congr
  intro value _
  by_cases hwanted : wanted value = true
  · rw [h value hwanted]
  · simp only [hwanted, Bool.false_and]

/-- Two filters that are decided for every node, and alike for numbers, select the same
numbers. -/
theorem exists_same_numbers {settings : Settings} {root : Json} {condition other : Condition}
    {found found' : Json → Bool}
    (h : ∀ node, condition.holds settings root node = .ok (found node))
    (h' : ∀ node, other.holds settings root node = .ok (found' node))
    (hnumbers : ∀ a : Number, found (.number a) = found' (.number a)) (text text' : String)
    (current : Json) :
    ∃ nodes nodes' : List Json,
      ((⟨text, [.filter condition]⟩ : Path).selectFrom settings root current).sequence =
        nodes.map .ok ∧
      ((⟨text', [.filter other]⟩ : Path).selectFrom settings root current).sequence =
        nodes'.map .ok ∧
      (nodes.filter fun node => node.kind = .number) =
        nodes'.filter fun node => node.kind = .number := by
  refine ⟨_, _, sequence_filter h text current, sequence_filter h' text' current, ?_⟩
  apply filter_filter_congr
  intro node hnode
  cases node with
  | number a => exact hnumbers a
  | _ => simp [Json.kind] at hnode

/-- A number between quotes acts like the number where it meets a number.  Whatever is read
as a number denotes it also as a string: an operator that compares values has the same answer
for the two beside any number, on either side.  The filters that compare the children of a
node with the one and with the other are read from their texts, never fail, and select the
same children among the numbers. -/
theorem quoted_number_acts_as_number {text : String} {literal : Json}
    (hliteral : Path.readNumber text.toList = .ok (literal, [])) {operator : Operator}
    (hoperator : operator ∈ Operator.valueOperators) :
    (∀ (settings : Settings) (given : Option RegexLiteral) (a : Number),
      settings.holdsBetween operator given (.number a) literal =
          settings.holdsBetween operator given (.number a) (.string text) ∧
        settings.holdsBetween operator given literal (.number a) =
          settings.holdsBetween operator given (.string text) (.number a)) ∧
      ∀ filterText ∈ [fun side => Path.comparisonText "@" operator side,
          fun side => Path.comparisonText side operator "@"],
        ∃ plain quoted, Path.parse (filterText text) = .ok plain ∧
          Path.parse (filterText ("'" ++ text ++ "'")) = .ok quoted ∧
          ∀ settings root current, ∃ nodes quotedNodes : List Json,
            (plain.selectFrom settings root current).sequence = nodes.map .ok ∧
            (quoted.selectFrom settings root current).sequence = quotedNodes.map .ok ∧
            (nodes.filter fun node => node.kind = .number) =
              quotedNodes.filter fun node => node.kind = .number := by
  obtain ⟨value, rfl, hvalue⟩ := Path.readNumber_eq_ok hliteral
  obtain ⟨hregex, hpresent⟩ := Operator.ne_of_mem_valueOperators hoperator
  have hplain : Path.LiteralText (.number value) text.toList := .number hvalue
  have hquoted : Path.LiteralText (.string text) ("'" ++ text ++ "'").toList := by
    rw [String.toList_append, String.toList_append]
    exact .string (Path.quotedText_number hvalue)
  constructor
  · intro settings given a
    rw [Settings.holdsBetween_eq hregex, Settings.holdsBetween_eq hregex,
      Settings.holdsBetween_eq hregex, Settings.holdsBetween_eq hregex,
      finds_number_string hvalue hoperator, finds_string_number hvalue hoperator]
    exact ⟨rfl, rfl⟩
  · intro filterText hfilter
    simp only [List.mem_cons, List.not_mem_nil, or_false] at hfilter
    rcases hfilter with rfl | rfl
    · refine ⟨_, _, Path.parse_node_literal hpresent rfl hplain,
        Path.parse_node_literal hpresent rfl hquoted, ?_⟩
      intro settings root current
      exact exists_same_numbers (holds_node_literal hoperator _) (holds_node_literal hoperator _)
        (fun a => (finds_number_string hvalue hoperator).symm) _ _ current
    · refine ⟨_, _, Path.parse_literal_node hpresent rfl hplain,
        Path.parse_literal_node hpresent rfl hquoted, ?_⟩
      intro settings root current
      exact exists_same_numbers (holds_literal_node hoperator _) (holds_literal_node hoperator _)
        (fun a => (finds_string_number hvalue hoperator).symm) _ _ current

/-- The number `9` is below the string `"10"`, although the text of the string comes first. -/
theorem quoted_number_acts_as_number_ten :
    Path.readNumber "10".toList = .ok (.number (.int 10 (by decide)), []) ∧
      Operator.less ∈ Operator.valueOperators ∧
      Settings.holdsBetween {} .less none (.number (.int 9 (by decide))) (.string "10") =
        .ok true := by
  have hliteral : Path.readNumber "10".toList = .ok (.number (.int 10 (by decide)), []) := by rfl
  have hless : Operator.less ∈ Operator.valueOperators := by decide
  refine ⟨hliteral, hless, ?_⟩
  rw [← ((quoted_number_acts_as_number hliteral hless).1 {} none (.int 9 (by decide))).1]
  rfl

end PathQuery
