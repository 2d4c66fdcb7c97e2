import PathQuery.Path.Reader

/-!
# The grammar of paths

A path is read as segments: dotted names and indexers in brackets.  The
predicate of a filter is a disjunction of conjunctions of comparisons, whose
operands may be paths with filters of their own.  The readers of the parts of a
predicate take the reader for a predicate inside them as an argument; `predicate`
ties the knot on the depth of nesting, which the length of the text bounds.
-/

namespace PathQuery.Path

/-- If a character may belong to a dotted name; inside a predicate the signs of
operators end a name. -/
def isNameChar (inPredicate : Bool) (c : Char) : Bool :=
  !(c == '[' || c == ']' || c == ')' || c == '.' || Text.isBlank c ||
    (inPredicate &&
      (c == '=' || c == '<' || c == '!' || c == '>' || c == '|' || c == '&')))

/-- The name that a dotted segment denotes; a star alone stands for every name. -/
def dottedName (segment : List Char) : Option String :=
  let name := Text.trimEnd segment
  if name = ['*'] then none else some (String.ofList name)

/-- The step of a name, at any depth after two dots. -/
def nameStep (descending : Bool) (name : Option String) : Step :=
  if descending then .descend name else .member name

/-- The steps of a dotted segment; an empty one has none. -/
def segmentSteps (descending : Bool) (segment : List Char) : List Step :=
  if segment.isEmpty then [] else [nameStep descending (dottedName segment)]

/-- The step of the names in brackets. -/
def namesStep (descending : Bool) : List String → Step
  | [name] => nameStep descending (some name)
  | names => if descending then .descendAny ⟨names⟩ else .members names

/-- Consumes the parenthesis that closes a predicate. -/
def closeParenthesis : List Char → Except Failure (List Char)
  | [] => failAt .openPredicate []
  | ')' :: rest => .ok rest
  | c :: rest => unexpected .predicate c rest

/-- Reads a filter after its question mark, up to a closing bracket that stays in
front. -/
def filterIndexer (nested : Reader Condition) (descending : Bool) : Reader Step
  | [] => failAt .openIndexer []
  | '(' :: rest => do
    let (condition, rest) ← nested rest
    let rest ← closeParenthesis rest
    match Text.skipBlanks rest with
    | [] => failAt .openIndexer []
    | ']' :: rest =>
      .ok (if descending then .descendFilter condition else .filter condition, ']' :: rest)
    | c :: rest => unexpected .indexer c rest
  | c :: rest => unexpected .indexer c rest

/-- Reads the inside of an indexer, up to a closing bracket that stays in front.
After two dots an array indexer applies to the node and everything beneath it. -/
def indexer (nested : Reader Condition) (descending : Bool) : Reader (List Step) := fun text =>
  match Text.skipBlanks text with
  | [] => failAt .openIndexer []
  | '\'' :: rest =>
    (quotedNames (rest.length + 1) ('\'' :: rest)).map fun (names, rest) =>
      ([namesStep descending names], rest)
  | '?' :: rest => (filterIndexer nested descending rest).map fun (step, rest) => ([step], rest)
  | text =>
    (arrayIndexer text.length .single text).map fun (step, rest) =>
      (if descending then [.descend none, step] else [step], rest)

/-- What stands directly before a place in a path. -/
inductive Before
  | start
  | dot
  | indexer
deriving DecidableEq

/-- Ends a path; behind a dot there must be a name, unless the path is not at the
end of the text and not inside a predicate. -/
def endPath (inPredicate : Bool) (before : Before) : Reader (List Step) := fun text =>
  if before = .dot ∧ (text.isEmpty ∨ inPredicate) then failAt .unexpectedEnd text
  else .ok ([], text)

/-- Reads the segments of a path; every round consumes a character. -/
def segments (nested : Reader Condition) (inPredicate : Bool) :
    Nat → Bool → Before → Reader (List Step)
  | 0, _, before, text => endPath inPredicate before text
  | rounds + 1, descending, before, text =>
    let name := text.takeWhile (isNameChar inPredicate)
    match before, name with
    | .indexer, c :: _ => failAt (.unexpectedAfterIndexer c) text
    | _, _ =>
      let steps := segmentSteps descending name
      let descending := descending && name.isEmpty
      match text.dropWhile (isNameChar inPredicate) with
      | '[' :: rest => do
        let (found, rest) ← indexer nested descending rest
        let (more, rest) ← segments nested inPredicate rounds false .indexer rest.tail
        .ok (steps ++ found ++ more, rest)
      | '.' :: '.' :: rest => do
        let (more, rest) ← segments nested inPredicate rounds true .dot rest
        .ok (steps ++ more, rest)
      | '.' :: rest => do
        let (more, rest) ← segments nested inPredicate rounds descending .dot rest
        .ok (steps ++ more, rest)
      | rest =>
        if name.isEmpty then endPath inPredicate before rest else .ok (steps, rest)

/-- Reads the path of an operand. -/
def operandPath (nested : Reader Condition) (first : List Step) : Reader Operand := fun text =>
  (segments nested true text.length false .start text).map fun (steps, rest) =>
    (.path (first ++ steps), rest)

/-- Reads a word that stands for a constant. -/
def readWord (word : List Char) (value : Json) : Reader Operand := fun text =>
  match text with
  | [] => failAt .openPredicate []
  | c :: rest =>
    if word.isPrefixOf text then .ok (.literal value, text.drop word.length)
    else unexpected .predicate c rest

/-- Reads an operand without the blanks around it. -/
def bareOperand (nested : Reader Condition) : Reader Operand
  | [] => failAt .openPredicate []
  | c :: rest =>
    if c = '@' then operandPath nested [] rest
    else if c = '$' then operandPath nested [.root] rest
    else if c = '\'' then
      (quoted rest).map fun (chars, rest) => (.literal (.string (String.ofList chars)), rest)
    else if c = '/' then (readRegex rest).map fun (regex, rest) => (.regex regex, rest)
    else if isIndexChar c then
      (readNumber (c :: rest)).map fun (value, rest) => (.literal value, rest)
    else if c = 't' then readWord ['t', 'r', 'u', 'e'] (.bool true) (c :: rest)
    else if c = 'f' then readWord ['f', 'a', 'l', 's', 'e'] (.bool false) (c :: rest)
    else if c = 'n' then readWord ['n', 'u', 'l', 'l'] .null (c :: rest)
    else unexpected .predicate c rest

/-- Drops blanks inside a predicate, which must not end there. -/
def skipInside (rest : List Char) : Except Failure (List Char) :=
  match Text.skipBlanks rest with
  | [] => failAt .openPredicate []
  | rest => .ok rest

/-- Reads an operand and the blanks around it. -/
def operand (nested : Reader Condition) : Reader Operand := fun text => do
  let (operand, rest) ← bareOperand nested (Text.skipBlanks text)
  let rest ← skipInside rest
  .ok (operand, rest)

/-- If a character ends a comparison after its left operand. -/
def endsComparison (c : Char) : Bool :=
  c == ')' || c == '|' || c == '&'

/-- Reads a predicate in parentheses or a comparison; a left operand alone asks
whether it is there. -/
def term (nested : Reader Condition) : Reader Condition := fun text =>
  match Text.skipBlanks text with
  | '(' :: rest => do
    let (condition, rest) ← nested rest
    let rest ← closeParenthesis rest
    let rest ← skipInside rest
    .ok (condition, rest)
  | text => do
    let (left, rest) ← operand nested text
    if rest.head?.any endsComparison then .ok (.comparison .present left none, rest)
    else
      let (operator, rest) ← readOperator rest
      let (right, rest) ← operand nested rest
      .ok (.comparison operator left (some right), rest)

/-- Reads conditions with a doubled mark between them; every round consumes a
character. -/
def joined (item : Reader Condition) (mark : Char) : Nat → Reader (List Condition)
  | 0, text => failAt .openPredicate text
  | rounds + 1, text => do
    let (first, rest) ← item text
    match rest with
    | [] => .ok ([first], [])
    | c :: after =>
      if c = mark then
        match after with
        | [] => unexpected .predicate c []
        | d :: more =>
          if d = mark then
            let (others, rest) ← joined item mark rounds more
            .ok (first :: others, rest)
          else unexpected .predicate c (d :: more)
      else .ok ([first], c :: after)

/-- Reads terms that must all hold. -/
def conjunction (nested : Reader Condition) : Reader Condition := fun text =>
  (joined (term nested) '&' text.length text).map fun (conditions, rest) =>
    (.join .and conditions, rest)

/-- Reads conjunctions of which one must hold. -/
def disjunction (nested : Reader Condition) : Reader Condition := fun text =>
  (joined (conjunction nested) '|' text.length text).map fun (conditions, rest) =>
    (.join .or conditions, rest)

/-- Reads a predicate that holds others up to a depth.  Each of them stands behind
a parenthesis of its own, so nothing is left to read where the depth is used up. -/
def predicate : Nat → Reader Condition
  | 0 => failAt .openPredicate
  | depth + 1 => disjunction (predicate depth)

/-- Reads segments up to the end of the text. -/
def wholePath (text : List Char) : Except Failure (List Step) := do
  let (steps, rest) ←
    segments (predicate text.length) false text.length false .start text
  match Text.skipBlanks rest with
  | [] => .ok steps
  | c :: rest => unexpected .path c rest

/-- Reads a path text.  A dollar sign stands for the root where a dot, a bracket
or the end follows; otherwise it begins a name. -/
def readSteps (text : List Char) : Except Failure (List Step) :=
  match Text.skipBlanks text with
  | [] => .ok []
  | '$' :: rest =>
    match rest with
    | [] => .ok []
    | c :: _ =>
      if c = '.' ∨ c = '[' then wholePath rest
      else if Text.isBlank c then
        match Text.skipBlanks rest with
        | [] => .ok []
        | c :: rest => unexpected .path c rest
      else wholePath ('$' :: rest)
  | text => wholePath text

end PathQuery.Path
