import PathQuery.Path.Error
import PathQuery.Path.Step

/-!
# Reading the parts of a path

A reader consumes the front of a text and answers a value with the text after
it.  Where it fails it answers the fault with the text that begins at the place
of the fault, so that places need no counting while a path is read.

This module reads the parts that hold no others: quoted strings, indices,
slices, numbers, regular expressions and operators.
-/

namespace PathQuery.Path

/-- A fault with the text that begins where it was found. -/
structure Failure where
  fault : Fault
  rest : List Char

/-- A reader consumes the front of a text, or fails. -/
abbrev Reader (α : Type) := List Char → Except Failure (α × List Char)

/-- Fails at the beginning of a text. -/
def failAt {α : Type} (fault : Fault) (rest : List Char) : Except Failure α :=
  .error ⟨fault, rest⟩

/-- Fails at a character that cannot stand where it does. -/
def unexpected {α : Type} (context : Context) (c : Char) (rest : List Char) :
    Except Failure α :=
  failAt (.unexpectedCharacter context c) (c :: rest)

/-! ## Quoted strings -/

/-- The character that another one stands for after a backslash. -/
def unescape? : Char → Option Char
  | 'b' => some '\x08'
  | 't' => some '\t'
  | 'n' => some '\n'
  | 'f' => some '\x0c'
  | 'r' => some '\r'
  | '\\' => some '\\'
  | '"' => some '"'
  | '\'' => some '\''
  | '/' => some '/'
  | _ => none

/-- Reads a string after its opening quote; a backslash at the very end stands
for itself. -/
def quoted : Reader (List Char)
  | [] => failAt .openString []
  | '\'' :: rest => .ok ([], rest)
  | '\\' :: c :: rest =>
    match unescape? c with
    | some value => (quoted rest).map fun (chars, rest) => (value :: chars, rest)
    | none => failAt (.unknownEscape c) (c :: rest)
  | c :: rest => (quoted rest).map fun (chars, rest) => (c :: chars, rest)

/-- Reads quoted names with commas between them, up to a closing bracket that
stays in front; every round consumes a character. -/
def quotedNames : Nat → Reader (List String)
  | 0, text => failAt .openIndexer text
  | _ + 1, [] => failAt .openIndexer []
  | rounds + 1, c :: rest =>
    if c = '\'' then do
      let (name, rest) ← quoted rest
      match Text.skipBlanks rest with
      | [] => failAt .openIndexer []
      | ']' :: rest => .ok ([String.ofList name], ']' :: rest)
      | ',' :: rest =>
        let (names, rest) ← quotedNames rounds (Text.skipBlanks rest)
        .ok (String.ofList name :: names, rest)
      | c :: rest => unexpected .indexer c rest
    else unexpected .indexer c rest

/-! ## Indices and slices -/

/-- The characters of an index. -/
def isIndexChar (c : Char) : Bool :=
  c.isDigit || c == '-'

/-- The value of some decimal digits. -/
def natValue (digits : List Char) : Nat :=
  digits.foldl (fun n c => n * 10 + Numeral.digit c) 0

/-- An integer of 64 bits with its sign. -/
def int64? (value : Int) : Option Int64 :=
  if -2 ^ 63 ≤ value ∧ value < 2 ^ 63 then some (Int64.ofInt value) else none

/-- The index that some characters denote: digits, perhaps after a hyphen. -/
def index? (token : List Char) : Option Int64 :=
  match token with
  | '-' :: digits =>
    if !digits.isEmpty && digits.all Char.isDigit then int64? (-(natValue digits : Int)) else none
  | digits =>
    if !digits.isEmpty && digits.all Char.isDigit then int64? (natValue digits) else none

/-- The index of a token that stands in front of a text. -/
def readIndex (token text : List Char) : Except Failure Int64 :=
  match index? token with
  | some index => .ok index
  | none => failAt (.invalidIndex (String.ofList token)) text

/-- The index of a token that may be empty. -/
def readBound (token text : List Char) : Except Failure (Option Int64) :=
  if token.isEmpty then .ok none else (readIndex token text).map some

/-- What an indexer has shown itself to be. -/
inductive IndexerForm
  | single
  | list (indices : List Int64)
  | sliceStop (start : Option Int64)
  | sliceStride (start stop : Option Int64)

namespace IndexerForm

/-- The indices before the current one, unless the indexer is a slice. -/
def indices? : IndexerForm → Option (List Int64)
  | single => some []
  | list indices => some indices
  | _ => none

/-- If nothing but the current token has been read. -/
def isSingle : IndexerForm → Bool
  | single => true
  | _ => false

/-- The step of an indexer whose last token is `token`, at its bracket. -/
def close (form : IndexerForm) (token text rest : List Char) : Except Failure Step :=
  match form with
  | single =>
    if token.isEmpty then failAt .indexExpected rest
    else (readIndex token text).map fun index => .element (some index)
  | list indices =>
    if token.isEmpty then failAt .indexExpected rest
    else (readIndex token text).map fun index => .elements (indices ++ [index])
  | sliceStop start => (readBound token text).map fun stop => .slice start stop none
  | sliceStride start stop => (readBound token text).map fun stride => .slice start stop stride

/-- The form that a bound before a colon leads to, unless no colon may follow. -/
def colon? : IndexerForm → Option (Option Int64 → IndexerForm)
  | single => some .sliceStop
  | sliceStop start => some (.sliceStride start)
  | list _ | sliceStride _ _ => none

end IndexerForm

/-- Reads the inside of an array indexer, up to a closing bracket that stays in
front; every round consumes a character. -/
def arrayIndexer : Nat → IndexerForm → Reader Step
  | 0, _, text => failAt .openIndexer text
  | rounds + 1, form, text =>
    let token := text.takeWhile isIndexChar
    match Text.skipBlanks (text.dropWhile isIndexChar) with
    | [] => failAt .openIndexer []
    | ']' :: rest => (form.close token text (']' :: rest)).map fun step => (step, ']' :: rest)
    | ',' :: rest =>
      match form.indices?, token.isEmpty with
      | some indices, false => do
        let index ← readIndex token text
        arrayIndexer rounds (.list (indices ++ [index])) (Text.skipBlanks rest)
      | _, _ => unexpected .indexer ',' rest
    | ':' :: rest =>
      match form.colon? with
      | some next => do
        let bound ← readBound token text
        arrayIndexer rounds (next bound) (Text.skipBlanks rest)
      | none => unexpected .indexer ':' rest
    | '*' :: rest =>
      if form.isSingle && token.isEmpty then
        match Text.skipBlanks rest with
        | [] => failAt .openIndexer []
        | ']' :: rest => .ok (.element none, ']' :: rest)
        | c :: rest => unexpected .indexer c rest
      else unexpected .indexer '*' rest
    | c :: rest => unexpected .indexer c rest

/-! ## Constants and operators of predicates -/

/-- The characters of a number. -/
def isNumberChar (c : Char) : Bool :=
  c.isDigit || c == '-' || c == '+' || c == '.' || c == 'e' || c == 'E'

/-- Reads a number. -/
def readNumber : Reader Json := fun text =>
  let token := text.takeWhile isNumberChar
  match Number.ofText? token with
  | some number => .ok (.number number, text.dropWhile isNumberChar)
  | none => failAt (.invalidNumber (String.ofList token)) text

/-- Reads the pattern of a regular expression up to its closing slash: the first
one that no backslash takes along. -/
def regexBody : List Char → Option (List Char × List Char)
  | [] => none
  | '/' :: rest => some ([], rest)
  | '\\' :: c :: rest => (regexBody rest).map fun (body, rest) => ('\\' :: c :: body, rest)
  | c :: rest => (regexBody rest).map fun (body, rest) => (c :: body, rest)

/-- Reads a regular expression after its opening slash. -/
def readRegex : Reader RegexLiteral := fun text =>
  match regexBody text with
  | none => failAt .openRegex []
  | some (body, rest) =>
    let literal := String.ofList ('/' :: body ++ '/' :: rest.takeWhile Char.isAlpha)
    match RegexLiteral.ofText literal with
    | .ok regex => .ok (regex, rest.dropWhile Char.isAlpha)
    | .error reason => failAt (.invalidRegex literal reason) ('/' :: text)

/-- The signs of the operators; where one begins another, the longer one comes
first. -/
def operatorSigns : List (List Char × Operator) :=
  [(['=', '=', '='], .strictEquals), (['=', '='], .equals), (['=', '~'], .matchesRegex),
    (['!', '=', '='], .strictNotEquals), (['!', '='], .notEquals), (['<', '>'], .notEquals),
    (['<', '='], .lessOrEqual), (['<'], .less), (['>', '='], .greaterOrEqual),
    (['>'], .greater)]

/-- Reads an operator; a text of one byte has no room for an operator and a right
side. -/
def readOperator : Reader Operator := fun text =>
  match text with
  | [] => failAt .openPredicate []
  | ']' :: rest => unexpected .predicate ']' rest
  | c :: rest =>
    if rest.isEmpty && c.utf8Size == 1 then failAt .openPredicate text
    else
      match operatorSigns.find? fun sign => sign.1.isPrefixOf text with
      | some (sign, operator) => .ok (operator, text.drop sign.length)
      | none => failAt .unknownOperator text

end PathQuery.Path
