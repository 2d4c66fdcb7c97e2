import PathQuery.Proofs.Path.Cursor

/-!
# The routines of a cursor

A cursor goes through a path text by routines that call one another: a path has indexers,
an indexer may have a predicate, and the operands of a predicate may be paths again.  In
this module every routine is given the routines that it calls, so that it can be run while
one of these calls is never answered.  A scan that needs an answer has none itself when
there is none to be had, and this tells which calls a routine makes.
-/

namespace PathQuery.Path

namespace Scan

variable {α β γ : Type}

/-- Three scans in a row may be taken together from either side. -/
theorem bind_assoc (scan : Scan α) (next : α → Scan β) (last : β → Scan γ) :
    (scan >>= next) >>= last = scan >>= fun value => next value >>= last := by
  funext here
  simp only [bind]
  cases scan here with
  | none => rfl
  | some outcome =>
      cases outcome with
      | error error => rfl
      | ok read => rfl

end Scan

namespace Cursor

open Scan

/-! ## Routines and their calls -/

/-- A part of a path text that a cursor reads by a routine of its own; the first one reads
the whole text. -/
inductive Routine
  | main
  | path
  | indexer
  | array
  | names
  | string
  | filter
  | disjunction
  | conjunction
  | term
  | operand
  | number
  | regex
deriving DecidableEq

/-- What a routine answers. -/
abbrev Routine.Value : Routine → Type
  | main | path | indexer => List Step
  | array | names | filter => Step
  | string => List Char
  | disjunction | conjunction | term => Condition
  | operand => Operand
  | number => Json
  | regex => RegexLiteral

/-- A call of a routine at a place.  The flag tells a path that it is inside of a predicate,
and an indexer, its names or its filter that they stand behind two dots; the other routines
have no use for it. -/
structure Frame where
  routine : Routine
  flag : Bool
  place : Nat
deriving DecidableEq

/-- The call that begins a path text. -/
def Frame.main : Frame :=
  ⟨.main, false, 0⟩

/-- A scan for every routine and flag. -/
def Routines : Type :=
  (routine : Routine) → Bool → Scan routine.Value

namespace Routines

/-- What a call is answered. -/
def answer (routines : Routines) (frame : Frame) :
    Option (Except ParseError (frame.routine.Value × Nat)) :=
  routines frame.routine frame.flag frame.place

/-- The same routines, but one call is never answered. -/
def without (routines : Routines) (frame : Frame) : Routines := fun routine flag place =>
  if (⟨routine, flag, place⟩ : Frame) = frame then none else routines routine flag place

/-! ## What a routine does between its calls -/

section Body

variable (text : List Char) (routines : Routines)

/-- Reads a path up to the end of the text. -/
def wholePath : Scan (List Step) := do
  let steps ← routines .path false
  skipBlanks text
  match ← peek text with
  | none => pure steps
  | some _ => Cursor.unexpected text .path

/-- Reads a path text from the cursor on. -/
def main : Scan (List Step) := do
  skipBlanks text
  match ← peek text with
  | none => pure []
  | some c =>
    if c = '$' then do
      let next := byteAt text ((← place) + 1)
      if next = some '.' ∨ next = some '[' then do
        skip 1
        routines.wholePath text
      else if next.all Text.isBlank then do
        skip 1
        skipBlanks text
        match ← peek text with
        | none => pure []
        | some _ => Cursor.unexpected text .path
      else routines.wholePath text
    else routines.wholePath text

/-- Reads the segments of a path byte by byte.  The name at hand begins at `start`. -/
def segments (inPredicate : Bool) : Nat → Bool → Before → Nat → Scan (List Step)
  | 0, _, _, _ => stuck
  | rounds + 1, descending, before, start => do
    let here ← place
    match ← peek text with
    | none => endPath text inPredicate descending before start
    | some c =>
      if c = '[' then do
        let steps ← pendingName text descending start
        let found ← routines .indexer (descending && start == here)
        skip 1
        let more ← segments inPredicate rounds false .indexer (← place)
        pure (steps ++ found ++ more)
      else if c = '.' then do
        let steps ← pendingName text descending start
        if byteAt text (here + 1) = some '.' then do
          skip 2
          let more ← segments inPredicate rounds true .dot (← place)
          pure (steps ++ more)
        else do
          skip 1
          let more ← segments inPredicate rounds (descending && start == here) .dot (← place)
          pure (steps ++ more)
      else if isNameChar inPredicate c then
        if before = .indexer then do
          fail (.unexpectedAfterIndexer (← current text))
        else do
          skip 1
          segments inPredicate rounds descending before start
      else endPath text inPredicate descending before start

/-- Reads an indexer from its opening bracket on, up to the closing one. -/
def indexer (descending : Bool) : Scan (List Step) := do
  skip 1
  skipBlanks text
  match ← peek text with
  | none => fail .openIndexer
  | some c =>
    if c = '\'' then do
      let step ← routines .names descending
      pure [step]
    else if c = '?' then do
      let step ← routines .filter descending
      pure [step]
    else do
      let step ← routines .array false
      pure (if descending then [.descend none, step] else [step])

/-- Reads quoted names up to a closing bracket. -/
def names : Nat → Scan (List String)
  | 0 => stuck
  | rounds + 1 => do
    match ← peek text with
    | none => fail .openIndexer
    | some c =>
      if c = '\'' then do
        let name ← routines .string false
        skipBlanks text
        match ← peek text with
        | none => fail .openIndexer
        | some mark =>
          if mark = ']' then pure [String.ofList name]
          else if mark = ',' then do
            skip 1
            skipBlanks text
            let names ← names rounds
            pure (String.ofList name :: names)
          else Cursor.unexpected text .indexer
      else Cursor.unexpected text .indexer

/-- Reads a predicate in parentheses or a comparison. -/
def term : Scan Condition := do
  skipBlanks text
  match ← peek text with
  | none => fail .openPredicate
  | some c =>
    if c = '(' then do
      skip 1
      let condition ← routines .disjunction false
      closeParenthesis text
      skipInside text
      pure condition
    else do
      let left ← routines .operand false
      if (← peek text).any endsComparison then pure (.comparison .present left none)
      else do
        let operator ← readOperator text
        let right ← routines .operand false
        pure (.comparison operator left (some right))

/-- Reads the path of an operand behind its first character. -/
def operandPath (first : List Step) : Scan Operand := do
  skip 1
  let steps ← routines .path true
  match ← peek text with
  | none => fail .openPredicate
  | some _ => pure (.path (first ++ steps))

/-- Reads an operand without the blanks around it. -/
def bareOperand : Scan Operand := do
  match ← peek text with
  | none => fail .openPredicate
  | some c =>
    if c = '@' then routines.operandPath text []
    else if c = '$' then routines.operandPath text [.root]
    else if c = '\'' then do
      let chars ← routines .string false
      pure (.literal (.string (String.ofList chars)))
    else if c = '/' then do
      let regex ← routines .regex false
      pure (.regex regex)
    else if isIndexChar c then do
      let value ← routines .number false
      pure (.literal value)
    else if c = 't' then readWord text ['t', 'r', 'u', 'e'] (.bool true)
    else if c = 'f' then readWord text ['f', 'a', 'l', 's', 'e'] (.bool false)
    else if c = 'n' then readWord text ['n', 'u', 'l', 'l'] .null
    else Cursor.unexpected text .predicate

/-- Reads an operand and the blanks around it. -/
def operand : Scan Operand := do
  skipBlanks text
  let side ← routines.bareOperand text
  skipInside text
  pure side

/-- The routines whose calls are answered by those at hand.  An array indexer and the
constants call nothing. -/
def body : Routines
  | .main, _ => routines.main text
  | .path, inPredicate => fun here =>
    routines.segments text inPredicate (rounds text) false .start here here
  | .indexer, descending => routines.indexer text descending
  | .array, _ => fun here => arrayIndexer text (rounds text) .single here none here
  | .names, descending => do
    let names ← routines.names text (rounds text)
    pure (namesStep descending names)
  | .string, _ => do
    skip 1
    quoted text (rounds text)
  | .filter, descending => filterIndexer text (routines .disjunction false) descending
  | .disjunction, _ => do
    let conditions ← joined text (routines .conjunction false) '|' (rounds text)
    pure (.join .or conditions)
  | .conjunction, _ => do
    let conditions ← joined text (routines .term false) '&' (rounds text)
    pure (.join .and conditions)
  | .term, _ => routines.term text
  | .operand, _ => routines.operand text
  | .number, _ => readNumber text
  | .regex, _ => readRegex text

end Body

end Routines

/-! ## The routines of a text -/

section Text

variable (text : List Char)

/-- The routines that read a text, with rounds and depth for the whole of it. -/
def routines : Routines
  | .main, _ => readSteps text
  | .path, inPredicate => fun here =>
    segments text (predicate text (rounds text)) inPredicate (rounds text) false .start here here
  | .indexer, descending => indexer text (predicate text (rounds text)) descending
  | .array, _ => fun here => arrayIndexer text (rounds text) .single here none here
  | .names, descending => do
    let names ← quotedNames text (rounds text)
    pure (namesStep descending names)
  | .string, _ => do
    skip 1
    quoted text (rounds text)
  | .filter, descending => filterIndexer text (predicate text (rounds text)) descending
  | .disjunction, _ => predicate text (rounds text)
  | .conjunction, _ => conjunction text (predicate text (rounds text))
  | .term, _ => term text (predicate text (rounds text))
  | .operand, _ => operand text (predicate text (rounds text))
  | .number, _ => readNumber text
  | .regex, _ => readRegex text

/-- If a call makes another one: it is not answered where the other one is not. -/
def Invokes (caller callee : Frame) : Prop :=
  (((routines text).without callee).body text).answer caller = none

instance (caller callee : Frame) : Decidable (Invokes text caller callee) :=
  inferInstanceAs (Decidable (_ = none))

end Text

/-! ## Routines that answer their own calls -/

section Unfolding

variable {text : List Char}

theorem segments_unfolds (inPredicate : Bool) (rounds' : Nat) (descending : Bool)
    (before : Before) (start : Nat) :
    (routines text).segments text inPredicate rounds' descending before start =
      segments text (predicate text (rounds text)) inPredicate rounds' descending before start := by
  induction rounds' generalizing descending before start with
  | zero => rfl
  | succ rounds' ih =>
      simp only [Routines.segments, segments, ih]
      rfl

theorem names_unfolds (rounds' : Nat) :
    (routines text).names text rounds' = quotedNames text rounds' := by
  induction rounds' with
  | zero => rfl
  | succ rounds' ih =>
      simp only [Routines.names, ih, routines, bind_assoc]
      rfl

/-- Apart from predicates every routine of a text answers its own calls as it stands. -/
theorem body_routines_of_ne {routine : Routine} (h : routine ≠ .disjunction) (flag : Bool) :
    (routines text).body text routine flag = routines text routine flag := by
  cases routine with
  | disjunction => exact absurd rfl h
  | path =>
      funext here
      exact congrFun (segments_unfolds flag _ _ _ _) here
  | names =>
      simp only [Routines.body, names_unfolds, routines]
  | indexer =>
      simp only [Routines.body, Routines.indexer, routines, indexer, bind_assoc]
      rfl
  | operand =>
      simp only [Routines.body, Routines.operand, Routines.bareOperand, routines, operand,
        bareOperand, bind_assoc]
      rfl
  | _ => rfl

end Unfolding

end Cursor

end PathQuery.Path
