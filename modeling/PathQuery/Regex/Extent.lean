import PathQuery.Regex.Basic
import PathQuery.Regex.ByteRanges
import Std.Data.HashMap

/-!
# The extent of an automaton

A regular expression is refused if the automaton of its bytes, or that of its
bytes from last to first, takes more than a fixed number of bytes of memory.
This module adds up the states of both automata without building them.

Every state has a number and takes the same room; a state with several
transitions takes more by their number, and so does a fork for every state that
it leads to.
-/

namespace PathQuery

/-- How far an automaton has grown: its states and the bytes that they take. -/
structure Extent where
  states : Nat
  bytes : Nat

/-- A step in the growth of an automaton, which fails where it would become too
large. -/
abbrev Growth := StateT Extent Option

namespace Growth

/-! ## Rooms -/

/-- The greatest number of bytes that an automaton may take. -/
def limit : Nat := 10 * 2 ^ 20

/-- The bytes of a state. -/
def stateBytes : Nat := 32

/-- The bytes of one of several transitions from a state. -/
def transitionBytes : Nat := 8

/-- The bytes of one of the states that a fork leads to. -/
def edgeBytes : Nat := 4

/-- Takes bytes, as far as there are any. -/
def take (bytes : Nat) : Growth Unit := fun extent =>
  if extent.bytes + bytes ≤ limit then some ((), { extent with bytes := extent.bytes + bytes })
  else none

/-- Adds a state with some bytes of its own, and gives its number. -/
def addState (bytes : Nat) : Growth Nat := fun extent =>
  let total := extent.bytes + stateBytes + bytes
  if total ≤ limit then some (extent.states, ⟨extent.states + 1, total⟩) else none

/-- Adds a state with one way out. -/
def addPlain : Growth Unit :=
  discard (addState 0)

/-- Adds a state with a number of transitions that are kept together. -/
def addTransitions (count : Nat) : Growth Unit :=
  discard (addState (transitionBytes * count))

/-- Adds ways out of a fork. -/
def addEdges (count : Nat) : Growth Unit :=
  take (edgeBytes * count)

/-- Links the end of a part to another state.  Only a fork needs room for it. -/
def link (isFork : Bool) : Growth Unit :=
  addEdges (if isFork then 1 else 0)

/-! ## States in common -/

/-- States that may be used again: a number of slots, each with the state that was
kept there last and what it does. -/
abbrev Kept (κ : Type) := StateT (Std.HashMap Nat (κ × Nat)) Growth

/-- The state that is kept in a slot for a purpose, or a new one, which is kept
from then on. -/
def reuse {κ : Type} [BEq κ] (slot : Nat) (purpose : κ) (bytes : Nat) : Kept κ Nat := do
  match (← get)[slot]? with
  | some (known, state) => if known == purpose then return state
  | none => pure ()
  let state ← addState bytes
  modify fun kept => kept.insert slot (purpose, state)
  return state

/-- A hash of some numbers in 64 bits: each is mixed in by an exclusive or, and the
result is multiplied by a prime. -/
def hash (numbers : List Nat) : Nat :=
  (numbers.foldl (fun h n => (h ^^^ n.toUInt64) * 1099511628211)
    (14695981039346656037 : UInt64)).toNat

/-- The ways out of a state: ranges of bytes with the state behind each. -/
abbrev Ways := List (ByteRange × Nat)

/-- The slot of a state with some ways out. -/
def slotOfWays (ways : Ways) : Nat :=
  hash (ways.flatMap fun way => [way.1.1, way.1.2, way.2]) % 10000

/-- The slot of a state that a range of bytes leads from to another. -/
def slotOfRange (state : Nat) (range : ByteRange) : Nat :=
  hash [state, range.1, range.2] % 1000

/-- The state where some rows of byte ranges begin that all end in one state.  Rows
with the same first range are neighbours; `depth` bounds the length of the rows. -/
def addRows (last : Nat) : Nat → List (List ByteRange) → Kept Ways Nat
  | 0, _ => return last
  | depth + 1, rows => do
    let groups := rows.splitBy fun a b => a.head? == b.head?
    let ways ← groups.filterMapM fun group => do
      match group with
      | (range :: []) :: _ => return some (range, last)
      | (range :: _ :: _) :: _ =>
        return some (range, ← addRows last depth (group.map List.tail))
      | _ => return none
    reuse (slotOfWays ways) ways (transitionBytes * ways.length)

/-- The states of a row of byte ranges in front of another state. -/
def addRow (last : Nat) (row : List ByteRange) : Kept (Nat × ByteRange) Nat :=
  row.foldlM (fun state range => reuse (slotOfRange state range) (state, range) 0) last

/-! ## Literals -/

/-- Splits texts at those that are empty; an empty text in front of all others
counts once. -/
def splitEmpty : List (List Nat) → List (List (List Nat))
  | [] => [[]]
  | [] :: rest => [] :: splitEmpty rest
  | text :: rest =>
    match splitEmpty rest with
    | chunk :: chunks => (text :: chunk) :: chunks
    | [] => [[text]]

/-- The texts with at most one empty text in front. -/
def mergeEmpty : List (List Nat) → List (List Nat)
  | [] :: rest => [] :: rest.dropWhile List.isEmpty
  | texts => texts

/-- Adds the states that tell some texts apart from their first bytes on, with a
fork in front.  Texts behind one that has ended are told apart on their own. -/
def addTexts : Nat → List (List Nat) → Growth Unit
  | 0, _ => return ()
  | depth + 1, texts => do
    let chunks := splitEmpty (mergeEmpty texts)
    for chunk in chunks do
      let bytes := (chunk.filterMap List.head?).eraseDups
      for byte in bytes do
        let rests := (chunk.filter fun text => text.head? == some byte).map List.tail
        if rests.any (!·.isEmpty) then addTexts depth rests
      if bytes.length = 1 then addPlain
      else if 1 < bytes.length then addTransitions bytes.length
    addPlain
    addEdges ((chunks.filter (!·.isEmpty)).length + chunks.length - 1)

/-! ## Expressions -/

/-- The direction in which an automaton takes the bytes of a text. -/
inductive Direction
  | forward
  | backward
deriving DecidableEq

/-- The growth by a set of characters of ASCII in a number of ranges. -/
def addBytes (count : Nat) : Growth Bool := do
  addPlain
  addTransitions count
  return false

/-- The growth by a set with some rows of byte ranges.  Forward, the rows share the
states that they end in; backward, those that they begin in, behind a fork. -/
def addByteRows (direction : Direction) (rows : List (List ByteRange)) : Growth Bool :=
  match direction with
  | .forward => do
    let last ← addState 0
    discard ((addRows last 4 rows).run ∅)
    return false
  | .backward => do
    addPlain
    let last ← addState 0
    discard ((rows.forM fun row => do discard (addRow last row); addEdges 1).run ∅)
    return false

/-- The growth by a number of rounds of a body. -/
def addExactly (body : Growth Bool) : Nat → Growth Bool
  | 0 => do addPlain; return false
  | 1 => body
  | rounds + 1 => do
    link (← body)
    addExactly body rounds

/-- The growth by rounds that may be left out, where the part before them ends in
a fork or not. -/
def addOptional (body : Growth Bool) (isFork : Bool) : Nat → Growth Unit
  | 0 => link isFork
  | rounds + 1 => do
    addPlain
    let ending ← body
    link isFork
    addEdges 2
    addOptional body ending rounds

/-- The growth by a body that is repeated. -/
def addRepetition (body : Growth Bool) (consumes : Bool) (least : Nat) (most : Option Nat) :
    Growth Bool :=
  match least, most with
  | 0, some 1 => do
    addPlain
    let isFork ← body
    addPlain
    addEdges 2
    link isFork
    return false
  | 0, none => do
    if consumes then
      addPlain
      let isFork ← body
      addEdges 1
      link isFork
      return true
    else
      let isFork ← body
      addPlain
      link isFork
      addEdges 1
      addPlain
      addPlain
      addEdges 3
      return false
  | 1, none => do
    let isFork ← body
    addPlain
    link isFork
    addEdges 1
    return true
  | least + 1, none => do
    let before ← addExactly body least
    let isFork ← body
    addPlain
    link before
    link isFork
    addEdges 1
    return true
  | least, some most => do
    let before ← addExactly body least
    if most ≤ least then return before
    addPlain
    addOptional body before (most - least)
    return false

/-- The growth by a choice between branches. -/
def addChoice : List (Growth Bool) → Growth Bool
  | [] => do addPlain; addTransitions 0; return false
  | [branch] => branch
  | first :: second :: rest => do
    let a ← first
    let b ← second
    addPlain
    addPlain
    addEdges 2
    link a
    link b
    for branch in rest do
      let isFork ← branch
      addEdges 1
      link isFork
    return false

/-- The growth by an expression alone, which tells whether it ends in a fork, and
by the branches of it where it is a choice. -/
structure Plan where
  whole : Growth Bool
  branches : List (Growth Bool)

/-- The plan of an expression that is no choice. -/
def Plan.single (growth : Growth Bool) : Plan :=
  ⟨growth, [growth]⟩

/-- The bytes of a literal, in the order of a direction. -/
def literalBytes (direction : Direction) (text : List Char) : List Nat :=
  let bytes := text.flatMap fun c => ByteRange.bytesOf c.toNat
  match direction with
  | .forward => bytes
  | .backward => bytes.reverse

/-- The literal that an expression is. -/
def literal? : Regex → Option (List Char)
  | .literal text => some text
  | _ => none

/-- The growth by a choice between literals. -/
def addLiterals (direction : Direction) (texts : List (List Char)) : Growth Bool := do
  let texts := texts.map (literalBytes direction)
  addPlain
  addTexts ((texts.map List.length).foldl max 0 + 1) texts
  return false

/-- The plan of an expression. -/
def plan (direction : Direction) : Regex → Plan
  | .empty => .single do addPlain; return false
  | .literal text =>
    let count := (literalBytes direction text).length
    .single do
      for _ in List.range count do addPlain
      return false
  | .set chars =>
    .single (if chars.isAscii then addBytes chars.ranges.length
      else addByteRows direction chars.byteRows)
  | .assertion _ => .single do addPlain; return false
  | .repetition body least most _ =>
    .single (addRepetition (plan direction body).whole body.consumes least most)
  | .capture _ body =>
    let body := (plan direction body).whole
    match direction with
    | .forward => .single do
      addPlain
      let isFork ← body
      addPlain
      link isFork
      return false
    | .backward => .single body
  | .seq first second =>
    let first := (plan direction first).whole
    let second := (plan direction second).whole
    match direction with
    | .forward => .single do link (← first); second
    | .backward => .single do link (← second); first
  | .alt first second =>
    let branches := (plan direction first).whole :: (plan direction second).branches
    ⟨fun extent =>
      match (Regex.alt first second).branches.mapM literal? with
      | none => addChoice branches extent
      | some texts => addLiterals direction texts extent,
    branches⟩

/-- If every match of an expression begins at the start of a text, or backward
ends at its end, because of an assertion that stands there. -/
def isAnchored (direction : Direction) : Regex → Bool
  | .assertion .textStart => direction = .forward
  | .assertion .textEnd => direction = .backward
  | .repetition body least _ _ => 0 < least && isAnchored direction body
  | .capture _ body => isAnchored direction body
  | .seq first second =>
    match direction with
    | .forward => isAnchored direction first || (first.isBlank && isAnchored direction second)
    | .backward => isAnchored direction second || (second.isBlank && isAnchored direction first)
  | .alt first second => isAnchored direction first && isAnchored direction second
  | _ => false

/-- The growth by all of an automaton: what passes over the text before a match,
the expression, and the state of success. -/
def addWhole (direction : Direction) (regex : Regex) : Growth Unit := do
  if isAnchored direction regex then addPlain
  else
    addPlain
    addPlain
    addTransitions 1
    addEdges 2
  let whole := (plan direction (.capture 0 regex)).whole
  let isFork ← whole
  addPlain
  link isFork

end Growth

namespace Regex

/-- The least number of literals in a choice that needs no automaton. -/
def wordListSize : Nat := 3000

/-- If an expression is a long choice between literals, which are searched for all
at once. -/
def isWordList (regex : Regex) : Bool :=
  wordListSize ≤ regex.branches.length && regex.branches.all fun branch =>
    (Growth.literal? branch).isSome

/-- If an expression needs no automaton, or both of its automata are small enough. -/
def fits (regex : Regex) : Bool :=
  regex.isWordList ||
    (((Growth.addWhole .forward regex).run ⟨0, 0⟩).isSome &&
      ((Growth.addWhole .backward regex).run ⟨0, 0⟩).isSome)

end Regex

end PathQuery
