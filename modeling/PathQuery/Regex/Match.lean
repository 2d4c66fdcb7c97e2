import PathQuery.Regex.Basic

/-!
# Matching

A set of positions of a text is a natural number whose bits are the positions.
A regular expression takes the set of positions where a match may begin to the
set of positions where it may end, so a search asks whether any position is
reached from all of them.  Every step is a few operations on numbers of as many
bits as the text has positions, and a repetition ends when it reaches nothing
new.
-/

namespace PathQuery

/-- A regular expression in which every set and every assertion has been replaced
by the positions of one text where it holds. -/
inductive Moves
  | stay
  | step (holds : Nat)
  | check (holds : Nat)
  | seq (first second : Moves)
  | alt (left right : Moves)
  | repetition (body : Moves) (least : Nat) (most : Option Nat)

namespace Moves

/-- Moves a set of positions a fixed number of times, or until it stands still. -/
def exactly (move : Nat → Nat) : Nat → Nat → Nat
  | 0, positions => positions
  | times + 1, positions =>
    let next := move positions
    if next = positions then positions else exactly move times next

/-- The positions reached by up to a number of moves; only positions that are
new are moved again. -/
def upTo (move : Nat → Nat) : Nat → Nat → Nat → Nat
  | 0, reached, _ => reached
  | times + 1, reached, fresh =>
    if fresh = 0 then reached
    else
      let next := move fresh
      let new := next ^^^ (next &&& reached)
      upTo move times (reached ||| new) new

/-- The positions where a match may end, from those where it may begin; `size`
bounds the number of positions. -/
def reach (size : Nat) : Moves → Nat → Nat
  | stay, positions => positions
  | step holds, positions => (positions &&& holds) <<< 1
  | check holds, positions => positions &&& holds
  | seq first second, positions => second.reach size (first.reach size positions)
  | alt left right, positions => left.reach size positions ||| right.reach size positions
  | repetition body least most, positions =>
    let start := exactly (fun s => body.reach size s) least positions
    upTo (fun s => body.reach size s) ((most.map (· - least)).getD size) start start

end Moves

namespace Regex

/-- The positions of a text whose next character is in a set. -/
def positionsOf (chars : CharSet) : List Char → Nat
  | [] => 0
  | c :: rest => (if chars.contains c.toNat then 1 else 0) + 2 * positionsOf chars rest

/-- The positions of a text whose next character is a given one. -/
def positionsOfChar (char : Char) : List Char → Nat
  | [] => 0
  | c :: rest => (if c = char then 1 else 0) + 2 * positionsOfChar char rest

/-- The positions of a text where an assertion holds, after a character. -/
def positionsWhere (condition : Assertion) (before : Option Char) : List Char → Nat
  | [] => if condition.holds before none then 1 else 0
  | c :: rest =>
    (if condition.holds before (some c) then 1 else 0) +
      2 * positionsWhere condition (some c) rest

/-- The moves of a regular expression over a text. -/
def moves (text : List Char) : Regex → Moves
  | empty => .stay
  | literal chars => chars.foldr (fun c rest => .seq (.step (positionsOfChar c text)) rest) .stay
  | set chars => .step (positionsOf chars text)
  | assertion condition => .check (positionsWhere condition none text)
  | repetition body least most _ => .repetition (body.moves text) least most
  | capture _ body => body.moves text
  | seq first second => .seq (first.moves text) (second.moves text)
  | alt first second => .alt (first.moves text) (second.moves text)

/-- If the regular expression matches somewhere in a text. -/
def isMatch (regex : Regex) (text : String) : Bool :=
  let chars := text.toList
  let positions := chars.length + 1
  (regex.moves chars).reach positions (2 ^ positions - 1) != 0

end Regex

end PathQuery
