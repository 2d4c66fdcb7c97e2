import PathQuery.Path.Basic

/-!
# Reading a path with a cursor over bytes

A path text is kept in UTF-8, and it can be read by a cursor that counts bytes.  Such a
reader looks at single bytes and moves on by one or two of them, also inside of
characters; it remembers places and cuts tokens out of the text between them.  A cut
that is out of bounds or inside of a character has no answer, and neither has a loop
that goes on for longer than the text, so a reader is safe if it always has an answer.
The readers of this module go through the grammar of paths in that way.
-/

namespace PathQuery.Path

/-! ## Texts in UTF-8 -/

/-- The bytes of a text. -/
def utf8 (text : List Char) : List UInt8 :=
  text.flatMap String.utf8EncodeChar

/-- The byte at a place, shown as the character of its number. -/
def byteAt (text : List Char) (place : Nat) : Option Char :=
  (utf8 text)[place]?.map fun byte => Char.ofNat byte.toNat

/-- The text from a place on, if it is within bounds and not inside of a character. -/
def textFrom : List Char → Nat → Option (List Char)
  | text, 0 => some text
  | [], _ + 1 => none
  | c :: rest, place + 1 =>
    if c.utf8Size ≤ place + 1 then textFrom rest (place + 1 - c.utf8Size) else none

/-- The text up to a place, if it is within bounds and not inside of a character. -/
def textUpTo : List Char → Nat → Option (List Char)
  | _, 0 => some []
  | [], _ + 1 => none
  | c :: rest, place + 1 =>
    if c.utf8Size ≤ place + 1 then (textUpTo rest (place + 1 - c.utf8Size)).map (c :: ·)
    else none

/-- The text between two places, if both are within bounds, in order, and not inside of a
character. -/
def slice (text : List Char) (start stop : Nat) : Option (List Char) :=
  if start ≤ stop then (textFrom text start).bind (textUpTo · (stop - start)) else none

/-- The character that begins at a place, if one does. -/
def charAt? (text : List Char) (place : Nat) : Option Char :=
  (textFrom text place).bind List.head?

/-! ## Scans -/

/-- A reader that moves a cursor: it answers a value with the place behind it, or a
malformed path, or nothing at all. -/
abbrev Scan (α : Type) : Type :=
  Nat → Option (Except ParseError (α × Nat))

namespace Scan

variable {α : Type}

instance : Monad Scan where
  pure value := fun place => some (.ok (value, place))
  bind scan next := fun place =>
    match scan place with
    | none => none
    | some (.error error) => some (.error error)
    | some (.ok (value, place)) => next value place

/-- Has no answer. -/
def stuck : Scan α := fun _ => none

/-- The place of the cursor. -/
def place : Scan Nat := fun place => some (.ok (place, place))

/-- Moves the cursor on. -/
def skip (bytes : Nat) : Scan Unit := fun place => some (.ok ((), place + bytes))

/-- Fails at a place. -/
def failFrom (fault : Fault) (position : Nat) : Scan α := fun _ => some (.error ⟨fault, position⟩)

/-- Fails at the cursor. -/
def fail (fault : Fault) : Scan α := fun place => some (.error ⟨fault, place⟩)

section Runs

variable {β : Type} {scan : Scan α} {next : α → Scan β} {here : Nat}

/-- After a scan that answers a value the next one goes on from its place. -/
theorem bind_of_ok {value : α} {there : Nat} (h : scan here = some (.ok (value, there))) :
    (scan >>= next) here = next value there := by
  simp only [bind, h]

/-- After a malformed path nothing is read. -/
theorem bind_of_error {error : ParseError} (h : scan here = some (.error error)) :
    (scan >>= next) here = some (.error error) := by
  simp only [bind, h]

@[simp] theorem pure_run (value : α) : (pure value : Scan α) here = some (.ok (value, here)) := rfl

@[simp] theorem place_bind (next : Nat → Scan β) : (place >>= next) here = next here here := rfl

@[simp] theorem skip_bind (bytes : Nat) (next : Unit → Scan β) :
    (skip bytes >>= next) here = next () (here + bytes) := rfl

end Runs

end Scan

namespace Cursor

open Scan

variable (text : List Char)

/-- More rounds than a loop over the bytes of a text has. -/
def rounds : Nat :=
  (utf8 text).length + 1

/-- The byte at the cursor. -/
def peek : Scan (Option Char) := fun place => some (.ok (byteAt text place, place))

/-- If a byte follows behind the one at the cursor. -/
def hasMore : Scan Bool := fun place => some (.ok (decide (place + 1 < (utf8 text).length), place))

/-- The character at the cursor; where none begins, the one that stands for a fault in a
text. -/
def current : Scan Char := fun place => some (.ok ((charAt? text place).getD '\uFFFD', place))

/-- Fails at a character that cannot stand where it does. -/
def unexpected {α : Type} (context : Context) : Scan α := do
  fail (.unexpectedCharacter context (← current text))

/-- Cuts the text from a place up to another one. -/
def cut (start stop : Nat) : Scan (List Char) := fun place =>
  (slice text start stop).map fun token => .ok (token, place)

/-- Moves behind bytes of a kind. -/
def skipWhile (kind : Char → Bool) : Nat → Scan Unit
  | 0 => stuck
  | rounds + 1 => do
    match ← peek text with
    | none => pure ()
    | some c =>
      if kind c then do
        skip 1
        skipWhile kind rounds
      else pure ()

/-- Moves behind blanks. -/
def skipBlanks : Scan Unit :=
  skipWhile text Text.isBlank (rounds text)

/-- Moves behind a token if it stands at the cursor. -/
def eat (token : List Char) : Scan Bool := fun place =>
  if place ≤ (utf8 text).length then
    if (utf8 token).isPrefixOf ((utf8 text).drop place) then
      some (.ok (true, place + (utf8 token).length))
    else some (.ok (false, place))
  else none

/-! ## Names, indices and constants -/

/-- Reads a string behind its opening quote, character by character. -/
def quoted : Nat → Scan (List Char)
  | 0 => stuck
  | rounds + 1 => do
    match charAt? text (← place) with
    | none => fail .openString
    | some c =>
      if c = '\\' ∧ (← hasMore text) then do
        skip 1
        let letter ← current text
        match unescape? letter with
        | none => fail (.unknownEscape letter)
        | some value => do
          skip letter.utf8Size
          let chars ← quoted rounds
          pure (value :: chars)
      else if c = '\'' then do
        skip 1
        pure []
      else do
        skip c.utf8Size
        let chars ← quoted rounds
        pure (c :: chars)

/-- Reads quoted names up to a closing bracket. -/
def quotedNames : Nat → Scan (List String)
  | 0 => stuck
  | rounds + 1 => do
    match ← peek text with
    | none => fail .openIndexer
    | some c =>
      if c = '\'' then do
        skip 1
        let name ← quoted text (Cursor.rounds text)
        skipBlanks text
        match ← peek text with
        | none => fail .openIndexer
        | some mark =>
          if mark = ']' then pure [String.ofList name]
          else if mark = ',' then do
            skip 1
            skipBlanks text
            let names ← quotedNames rounds
            pure (String.ofList name :: names)
          else unexpected text .indexer
      else unexpected text .indexer

/-- The index of a token that begins at a place. -/
def readIndex (token : List Char) (start : Nat) : Scan Int64 :=
  match index? token with
  | some index => pure index
  | none => failFrom (.invalidIndex (String.ofList token)) start

/-- The index of a token that may be empty. -/
def readBound (token : List Char) (start : Nat) : Scan (Option Int64) :=
  if token.isEmpty then pure none
  else do
    let index ← readIndex token start
    pure (some index)

/-- The step of an indexer whose last token begins at a place, at its bracket. -/
def close (form : IndexerForm) (token : List Char) (start : Nat) : Scan Step :=
  match form with
  | .single =>
    if token.isEmpty then fail .indexExpected
    else do
      let index ← readIndex token start
      pure (.element (some index))
  | .list indices =>
    if token.isEmpty then fail .indexExpected
    else do
      let index ← readIndex token start
      pure (.elements (indices ++ [index]))
  | .sliceStop first => do
    let stop ← readBound token start
    pure (.slice first stop none)
  | .sliceStride first stop => do
    let stride ← readBound token start
    pure (.slice first stop stride)

/-- Reads the inside of an array indexer up to its closing bracket.  The token at hand
begins at `start`, and ends at `stop?` if blanks have been met behind it. -/
def arrayIndexer : Nat → IndexerForm → Nat → Option Nat → Scan Step
  | 0, _, _, _ => stuck
  | rounds + 1, form, start, stop? => do
    let here ← place
    match ← peek text with
    | none => fail .openIndexer
    | some c =>
      if Text.isBlank c then do
        skipBlanks text
        arrayIndexer rounds form start (some here)
      else if c = ']' then do
        let token ← cut text start (stop?.getD here)
        close form token start
      else if c = ',' then do
        let token ← cut text start (stop?.getD here)
        match form.indices?, token.isEmpty with
        | some indices, false => do
          let index ← readIndex token start
          skip 1
          skipBlanks text
          arrayIndexer rounds (.list (indices ++ [index])) (← place) none
        | _, _ => unexpected text .indexer
      else if c = '*' then
        if start ≠ here ∨ form.isSingle = false then unexpected text .indexer
        else do
          skip 1
          skipBlanks text
          match ← peek text with
          | none => fail .openIndexer
          | some mark => if mark = ']' then pure (.element none) else unexpected text .indexer
      else if c = ':' then
        match form.colon? with
        | none => unexpected text .indexer
        | some next => do
          let token ← cut text start (stop?.getD here)
          let bound ← readBound token start
          skip 1
          skipBlanks text
          arrayIndexer rounds (next bound) (← place) none
      else if isIndexChar c ∧ stop? = none then do
        skip 1
        arrayIndexer rounds form start none
      else unexpected text .indexer

/-- Reads a number. -/
def readNumber : Scan Json := do
  let start ← place
  skipWhile text isNumberChar (rounds text)
  let token ← cut text start (← place)
  match Number.ofText? token with
  | some number => pure (.number number)
  | none => failFrom (.invalidNumber (String.ofList token)) start

/-- Moves behind the slash that closes a regular expression, byte by byte; a backslash
takes the next byte along. -/
def skipRegex : Nat → Scan Unit
  | 0 => stuck
  | rounds + 1 => do
    match ← peek text with
    | none => fail .openRegex
    | some c =>
      if c = '\\' ∧ (← hasMore text) then do
        skip 2
        skipRegex rounds
      else if c = '/' then skip 1
      else do
        skip 1
        skipRegex rounds

/-- If the byte at a place is escaped by an odd number of backslashes before it. -/
def escapedAt (token : List Char) (place : Nat) : Bool :=
  (((utf8 token).take place).reverse.takeWhile fun byte => byte == 92).length % 2 == 1

/-- Goes back from a place to a slash that is not escaped, but not to the first byte. -/
def lastSlash (token : List Char) : Nat → Option Nat
  | 0 => none
  | place + 1 =>
    if byteAt token (place + 1) = some '/' ∧ escapedAt token (place + 1) = false then
      some (place + 1)
    else lastSlash token place

/-- Cuts the pattern and the flags out of a literal, if it has two slashes. -/
def splitLiteral (token : List Char) : Option (Option (List Char × List Char)) :=
  if byteAt token 0 = some '/' then
    match lastSlash token ((utf8 token).length - 1) with
    | none => some none
    | some stop => do
      let pattern ← slice token 1 stop
      let letters ← textFrom token (stop + 1)
      some (some (pattern, letters))
  else some none

/-- Reads a regular expression from its opening slash on; its pattern and its flags are
cut out of it before it is compiled. -/
def readRegex : Scan RegexLiteral := do
  let start ← place
  skip 1
  skipRegex text (rounds text)
  skipWhile text Char.isAlpha (rounds text)
  let token ← cut text start (← place)
  if (splitLiteral token).isNone then stuck
  else match RegexLiteral.ofText (String.ofList token) with
  | .ok regex => pure regex
  | .error reason => failFrom (.invalidRegex (String.ofList token) reason) start

/-- Reads the first of some signs that stands at the cursor. -/
def readSign : List (List Char × Operator) → Scan Operator
  | [] => fail .unknownOperator
  | (sign, operator) :: signs => do
    if ← eat text sign then pure operator else readSign signs

/-- Reads an operator. -/
def readOperator : Scan Operator := do
  if (← peek text) = some ']' then unexpected text .predicate
  else if ← hasMore text then readSign text operatorSigns
  else fail .openPredicate

/-- Reads a word that stands for a constant. -/
def readWord (word : List Char) (value : Json) : Scan Operand := do
  if ← eat text word then pure (.literal value) else unexpected text .predicate

/-- Moves behind the parenthesis that closes a predicate. -/
def closeParenthesis : Scan Unit := do
  match ← peek text with
  | none => fail .openPredicate
  | some c => if c = ')' then skip 1 else unexpected text .predicate

/-- Moves behind blanks inside a predicate, which must not end there. -/
def skipInside : Scan Unit := do
  skipBlanks text
  match ← peek text with
  | none => fail .openPredicate
  | some _ => pure ()

/-! ## Segments and predicates -/

section Nested

variable (nested : Scan Condition)

/-- Reads a filter from its question mark on, up to a closing bracket. -/
def filterIndexer (descending : Bool) : Scan Step := do
  skip 1
  match ← peek text with
  | none => fail .openIndexer
  | some c =>
    if c = '(' then do
      skip 1
      let condition ← nested
      closeParenthesis text
      skipBlanks text
      match ← peek text with
      | none => fail .openIndexer
      | some mark =>
        if mark = ']' then
          pure (if descending then .descendFilter condition else .filter condition)
        else unexpected text .indexer
    else unexpected text .indexer

/-- Reads an indexer from its opening bracket on, up to the closing one. -/
def indexer (descending : Bool) : Scan (List Step) := do
  skip 1
  skipBlanks text
  match ← peek text with
  | none => fail .openIndexer
  | some c =>
    if c = '\'' then do
      let names ← quotedNames text (rounds text)
      pure [namesStep descending names]
    else if c = '?' then do
      let step ← filterIndexer text nested descending
      pure [step]
    else do
      let step ← arrayIndexer text (rounds text) .single (← place) none
      pure (if descending then [.descend none, step] else [step])

/-- The step of the name that ends at the cursor, if there is one. -/
def pendingName (descending : Bool) (start : Nat) : Scan (List Step) := do
  let here ← place
  if start < here then do
    let name ← cut text start here
    pure [nameStep descending (dottedName name)]
  else pure []

/-- Ends a path. -/
def endPath (inPredicate descending : Bool) (before : Before) (start : Nat) :
    Scan (List Step) := do
  let here ← place
  if start < here then pendingName text descending start
  else if before = .dot ∧ ((← peek text).isNone ∨ inPredicate) then fail .unexpectedEnd
  else pure []

/-- Reads the segments of a path byte by byte.  The name at hand begins at `start`. -/
def segments (inPredicate : Bool) : Nat → Bool → Before → Nat → Scan (List Step)
  | 0, _, _, _ => stuck
  | rounds + 1, descending, before, start => do
    let here ← place
    match ← peek text with
    | none => endPath text inPredicate descending before start
    | some c =>
      if c = '[' then do
        let steps ← pendingName text descending start
        let found ← indexer text nested (descending && start == here)
        skip 1
        let more ← segments inPredicate rounds false .indexer (← place)
        pure (steps ++ found ++ more)
      else if c = '.' then do
        let steps ← pendingName text descending start
        if byteAt text (here + 1) = some '.' then do
          skip 2
          let more ← segments inPredicate rounds true .dot (← place)
          pure (steps ++ more)
        else do
          skip 1
          let more ← segments inPredicate rounds (descending && start == here) .dot (← place)
          pure (steps ++ more)
      else if isNameChar inPredicate c then
        if before = .indexer then do
          fail (.unexpectedAfterIndexer (← current text))
        else do
          skip 1
          segments inPredicate rounds descending before start
      else endPath text inPredicate descending before start

/-- Reads the path of an operand behind its first character; the text must go on behind
it. -/
def operandPath (first : List Step) : Scan Operand := do
  skip 1
  let steps ← segments text nested true (rounds text) false .start (← place)
  match ← peek text with
  | none => fail .openPredicate
  | some _ => pure (.path (first ++ steps))

/-- Reads an operand without the blanks around it. -/
def bareOperand : Scan Operand := do
  match ← peek text with
  | none => fail .openPredicate
  | some c =>
    if c = '@' then operandPath text nested []
    else if c = '$' then operandPath text nested [.root]
    else if c = '\'' then do
      skip 1
      let chars ← quoted text (rounds text)
      pure (.literal (.string (String.ofList chars)))
    else if c = '/' then do
      let regex ← readRegex text
      pure (.regex regex)
    else if isIndexChar c then do
      let value ← readNumber text
      pure (.literal value)
    else if c = 't' then readWord text ['t', 'r', 'u', 'e'] (.bool true)
    else if c = 'f' then readWord text ['f', 'a', 'l', 's', 'e'] (.bool false)
    else if c = 'n' then readWord text ['n', 'u', 'l', 'l'] .null
    else unexpected text .predicate

/-- Reads an operand and the blanks around it. -/
def operand : Scan Operand := do
  skipBlanks text
  let side ← bareOperand text nested
  skipInside text
  pure side

/-- Reads a predicate in parentheses or a comparison. -/
def term : Scan Condition := do
  skipBlanks text
  match ← peek text with
  | none => fail .openPredicate
  | some c =>
    if c = '(' then do
      skip 1
      let condition ← nested
      closeParenthesis text
      skipInside text
      pure condition
    else do
      let left ← operand text nested
      if (← peek text).any endsComparison then pure (.comparison .present left none)
      else do
        let operator ← readOperator text
        let right ← operand text nested
        pure (.comparison operator left (some right))

/-- Reads conditions with a doubled mark between them. -/
def joined (item : Scan Condition) (mark : Char) : Nat → Scan (List Condition)
  | 0 => stuck
  | rounds + 1 => do
    let first ← item
    if (← peek text) = some mark then do
      if ← eat text [mark, mark] then do
        let others ← joined item mark rounds
        pure (first :: others)
      else unexpected text .predicate
    else pure [first]

/-- Reads terms that must all hold. -/
def conjunction : Scan Condition := do
  let conditions ← joined text (term text nested) '&' (rounds text)
  pure (.join .and conditions)

/-- Reads conjunctions of which one must hold. -/
def disjunction : Scan Condition := do
  let conditions ← joined text (conjunction text nested) '|' (rounds text)
  pure (.join .or conditions)

end Nested

/-- Reads a predicate that holds others up to a depth. -/
def predicate : Nat → Scan Condition
  | 0 => stuck
  | depth + 1 => disjunction text (predicate depth)

/-! ## Whole paths -/

/-- Reads segments up to the end of the text. -/
def wholePath : Scan (List Step) := do
  let steps ←
    segments text (predicate text (rounds text)) false (rounds text) false .start (← place)
  skipBlanks text
  match ← peek text with
  | none => pure steps
  | some _ => unexpected text .path

/-- Reads a path text from the cursor on. -/
def readSteps : Scan (List Step) := do
  skipBlanks text
  match ← peek text with
  | none => pure []
  | some c =>
    if c = '$' then do
      let next := byteAt text ((← place) + 1)
      if next = some '.' ∨ next = some '[' then do
        skip 1
        wholePath text
      else if next.all Text.isBlank then do
        skip 1
        skipBlanks text
        match ← peek text with
        | none => pure []
        | some _ => unexpected text .path
      else wholePath text
    else wholePath text

end Cursor

/-- The steps of a path text, read with a cursor over its bytes; nothing if a cut has no
answer. -/
def scanSteps (text : String) : Option (Except ParseError (List Step)) :=
  (Cursor.readSteps text.toList 0).map fun outcome => outcome.map (·.1)

end PathQuery.Path
