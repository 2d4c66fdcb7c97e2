import PathQuery.Path.Grammar
import PathQuery.Proofs.Path.Tokens

/-!
# The texts of a path

The texts of a path are told by the form of the path, without a reader.  A step
may be dotted or in brackets, the conditions of a filter may stand in any number
of parentheses, and blanks may stand around the parts of brackets and conditions.
The phrases of the notation hold each other, so one relation tells the texts of
all of them.
-/

namespace PathQuery.Path

open Text

/-- If a name may be dotted: it is not empty and no star, and has none of the
characters that end a name, nor white space at its end. -/
structure PlainName (inPredicate : Bool) (name : String) : Prop where
  nonempty : name.toList ≠ []
  not_star : name.toList ≠ ['*']
  inner : ∀ c ∈ name.toList, isBlank c = false ∧ c ∉ ['.', '[', ']', ')']
  operators : inPredicate = true → ∀ c ∈ name.toList, c ∉ ['=', '<', '!', '>', '|', '&']
  last : ∀ c ∈ name.toList.getLast?, isWhiteSpace c = false

/-- The text of a dotted name; a star stands for every name. -/
inductive DottedText (inPredicate : Bool) : Option String → List Char → Prop
  | every : DottedText inPredicate none ['*']
  | plain {name : String} :
      PlainName inPredicate name → DottedText inPredicate (some name) name.toList

/-- The dots in front of a dotted name: two of them look at every depth. -/
def nameDots (descending : Bool) : List Char :=
  if descending then ['.', '.'] else ['.']

/-- The dots in front of a bracket; one dot is of no account. -/
inductive BracketDots : Bool → List Char → Prop
  | none : BracketDots false []
  | one : BracketDots false ['.']
  | two : BracketDots true ['.', '.']

/-- The texts of a constant. -/
inductive LiteralText : Json → List Char → Prop
  | null : LiteralText .null ['n', 'u', 'l', 'l']
  | true : LiteralText (.bool true) ['t', 'r', 'u', 'e']
  | false : LiteralText (.bool false) ['f', 'a', 'l', 's', 'e']
  | number {number : Number} {text : List Char} :
      number.IsText text → LiteralText (.number number) text
  | string {value : String} {text : List Char} :
      QuotedText value.toList text →
      LiteralText (.string value) ('\'' :: (text ++ ['\'']))

/-- The phrases of the notation: the segments of a path, what stands in a bracket,
and the parts of a condition.  Conjuncts and disjuncts are the conditions that one
connective joins. -/
inductive Phrase
  | segments (inPredicate : Bool) (steps : List Step)
  | bracket (descending : Bool) (steps : List Step)
  | operand (operand : Operand)
  | term (condition : Condition)
  | conjuncts (conditions : List Condition)
  | conjunction (condition : Condition)
  | disjuncts (conditions : List Condition)
  | predicate (condition : Condition)

/-- The texts of the phrases. -/
inductive Written : Phrase → List Char → Prop
  | noSegments {inPredicate : Bool} : Written (.segments inPredicate []) []
  | dotted {inPredicate descending : Bool} {name : Option String} {segment : List Char}
      {steps : List Step} {rest : List Char} :
      DottedText inPredicate name segment → Written (.segments inPredicate steps) rest →
      Written (.segments inPredicate (nameStep descending name :: steps))
        (nameDots descending ++ (segment ++ rest))
  | bracketed {inPredicate descending : Bool} {dots : List Char} {found : List Step}
      {inside : List Char} {steps : List Step} {rest : List Char} :
      BracketDots descending dots → Written (.bracket descending found) inside →
      Written (.segments inPredicate steps) rest →
      Written (.segments inPredicate (found ++ steps)) (dots ++ '[' :: (inside ++ ']' :: rest))
  | name {descending : Bool} {name : String} {text : List Char} :
      BracketName name text →
      Written (.bracket descending [nameStep descending (some name)]) text
  | names {names : List String} {text : List Char} :
      Separated BracketName ',' names text → Written (.bracket false [.members names]) text
  | namesBeneath {names : List String} {text : List Char} :
      Separated BracketName ',' names text →
      Written (.bracket true [.descendAny ⟨names⟩]) text
  | array {step : Step} {text : List Char} :
      ArrayText step text → Written (.bracket false [step]) text
  | arrayBeneath {step : Step} {text : List Char} :
      ArrayText step text → Written (.bracket true [.descend none, step]) text
  | filter {condition : Condition} {inside text : List Char} :
      Written (.predicate condition) inside →
      Spaced ('?' :: '(' :: (inside ++ [')'])) text →
      Written (.bracket false [.filter condition]) text
  | filterBeneath {condition : Condition} {inside text : List Char} :
      Written (.predicate condition) inside →
      Spaced ('?' :: '(' :: (inside ++ [')'])) text →
      Written (.bracket true [.descendFilter condition]) text
  | fromNode {steps : List Step} {text : List Char} :
      Written (.segments true steps) text → Written (.operand (.path steps)) ('@' :: text)
  | fromRoot {steps : List Step} {text : List Char} :
      Written (.segments true steps) text →
      Written (.operand (.path (.root :: steps))) ('$' :: text)
  | literal {value : Json} {text : List Char} :
      LiteralText value text → Written (.operand (.literal value)) text
  | regex {literal : RegexLiteral} : Written (.operand (.regex literal)) literal.text.toList
  | present {operand : Operand} {operandText text : List Char} :
      Written (.operand operand) operandText → Spaced operandText text →
      Written (.term (.comparison .present operand none)) text
  | compared {operator : Operator} {left right : Operand}
      {leftOperand leftText sign rightOperand rightText : List Char} :
      Written (.operand left) leftOperand → Spaced leftOperand leftText →
      OperatorSign operator sign →
      Written (.operand right) rightOperand → Spaced rightOperand rightText →
      Written (.term (.comparison operator left (some right)))
        (leftText ++ (sign ++ rightText))
  | grouped {condition : Condition} {inside text : List Char} :
      Written (.predicate condition) inside → Spaced ('(' :: (inside ++ [')'])) text →
      Written (.term condition) text
  | lastConjunct {condition : Condition} {text : List Char} :
      Written (.term condition) text → Written (.conjuncts [condition]) text
  | moreConjuncts {condition : Condition} {conditions : List Condition}
      {text rest : List Char} :
      Written (.term condition) text → Written (.conjuncts conditions) rest →
      Written (.conjuncts (condition :: conditions)) (text ++ '&' :: '&' :: rest)
  | oneTerm {condition : Condition} {text : List Char} :
      Written (.term condition) text → Written (.conjunction condition) text
  | allOf {conditions : List Condition} {text : List Char} :
      Written (.conjuncts conditions) text →
      Written (.conjunction (.composite .and conditions)) text
  | lastDisjunct {condition : Condition} {text : List Char} :
      Written (.conjunction condition) text → Written (.disjuncts [condition]) text
  | moreDisjuncts {condition : Condition} {conditions : List Condition}
      {text rest : List Char} :
      Written (.conjunction condition) text → Written (.disjuncts conditions) rest →
      Written (.disjuncts (condition :: conditions)) (text ++ '|' :: '|' :: rest)
  | oneConjunction {condition : Condition} {text : List Char} :
      Written (.conjunction condition) text → Written (.predicate condition) text
  | anyOf {conditions : List Condition} {text : List Char} :
      Written (.disjuncts conditions) text →
      Written (.predicate (.composite .or conditions)) text

/-- The texts of a path: its segments behind a dollar sign. -/
def IsText (steps : List Step) (text : List Char) : Prop :=
  ∃ segments, Written (.segments false steps) segments ∧ Spaced ('$' :: segments) text

namespace Phrase

/-- The parts of a phrase. -/
def parts : Phrase → List Part
  | .segments _ steps | .bracket _ steps => partsOfSteps steps
  | .operand side => side.parts
  | .term condition | .conjunction condition | .predicate condition => condition.parts
  | .conjuncts conditions | .disjuncts conditions => partsOfConditions conditions

/-- If every part of a phrase is well formed. -/
def WellFormed (phrase : Phrase) : Prop :=
  ∀ part ∈ phrase.parts, part.WellFormed

end Phrase

end PathQuery.Path
