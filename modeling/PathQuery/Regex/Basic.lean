import PathQuery.Power
import PathQuery.Regex.Property
import PathQuery.Text

/-!
# Regular expressions

A regular expression is built from literal texts, sets of characters and
conditions on the characters on both sides of a place.  It no longer depends on
flags.  The functions that build one keep it in a normal form: rows are free of
empty parts and of neighbouring literals, and branches that are single
characters or sets become one set.
-/

namespace PathQuery

/-! ## Assertions -/

/-- A condition on the characters before and after a place.  The flag of those
about words tells the words of Unicode from those of ASCII. -/
inductive Assertion
  | textStart
  | textEnd
  | lineStart
  | lineEnd
  | lineStartAnyBreak
  | lineEndAnyBreak
  | wordBoundary (unicode : Bool)
  | noWordBoundary (unicode : Bool)
  | wordStart (unicode : Bool)
  | wordEnd (unicode : Bool)
  | wordStartHalf (unicode : Bool)
  | wordEndHalf (unicode : Bool)
deriving DecidableEq

namespace Assertion

/-- If there is a character and it belongs to words. -/
def inWord (unicode : Bool) (c : Option Char) : Bool :=
  c.any fun c => (if unicode then CharSet.word else CharSet.asciiWord).contains c.toNat

/-- If the assertion holds between two characters, either of them absent at the
end of the text. -/
def holds : Assertion → Option Char → Option Char → Bool
  | textStart, before, _ => before.isNone
  | textEnd, _, after => after.isNone
  | lineStart, before, _ => before.isNone || before == some '\n'
  | lineEnd, _, after => after.isNone || after == some '\n'
  | lineStartAnyBreak, before, after =>
    before.isNone || before == some '\n' || (before == some '\r' && after != some '\n')
  | lineEndAnyBreak, before, after =>
    after.isNone || after == some '\r' || (after == some '\n' && before != some '\r')
  | wordBoundary unicode, before, after => inWord unicode before != inWord unicode after
  | noWordBoundary unicode, before, after => inWord unicode before == inWord unicode after
  | wordStart unicode, before, after => !inWord unicode before && inWord unicode after
  | wordEnd unicode, before, after => inWord unicode before && !inWord unicode after
  | wordStartHalf unicode, before, _ => !inWord unicode before
  | wordEndHalf unicode, _, after => !inWord unicode after

end Assertion

/-! ## Expressions -/

/-- A regular expression.  A row of more than two parts, and a choice between
more than two branches, go on in their second part. -/
inductive Regex
  | empty
  | literal (text : List Char)
  | set (chars : CharSet)
  | assertion (condition : Assertion)
  | repetition (body : Regex) (least : Nat) (most : Option Nat) (greedy : Bool)
  | capture (index : Nat) (body : Regex)
  | seq (first second : Regex)
  | alt (first second : Regex)
deriving DecidableEq

namespace Regex

/-- The number of expressions inside an expression, itself included. -/
def size : Regex → Nat
  | empty => 1
  | literal _ => 1
  | set _ => 1
  | assertion _ => 1
  | repetition body _ _ _ => body.size + 1
  | capture _ body => body.size + 1
  | seq first second => first.size + second.size + 1
  | alt first second => first.size + second.size + 1

/-- The parts of a row; nothing has none. -/
def parts : Regex → List Regex
  | empty => []
  | seq first second => first :: second.parts
  | regex => [regex]

/-- The branches of a choice. -/
def branches : Regex → List Regex
  | alt first second => first :: second.branches
  | regex => [regex]

/-! ## Lengths -/

/-- If an expression matches nothing but the empty text. -/
def isBlank : Regex → Bool
  | empty => true
  | literal _ => false
  | set _ => false
  | assertion _ => true
  | repetition body _ most _ => body.isBlank && most.isSome
  | capture _ body => body.isBlank
  | seq first second => first.isBlank && second.isBlank
  | alt first second => first.isBlank && second.isBlank

/-- The least number of characters that an expression matches, as far as its parts
tell; an expression with a set without characters among them tells nothing. -/
def leastLength? : Regex → Option Nat
  | empty => some 0
  | literal text => some text.length
  | set chars => if chars.isEmpty then none else some 1
  | assertion _ => some 0
  | repetition body least _ _ => body.leastLength?.map (· * least)
  | capture _ body => body.leastLength?
  | seq first second => do return (← first.leastLength?) + (← second.leastLength?)
  | alt first second => do return min (← first.leastLength?) (← second.leastLength?)

/-- If an expression is known to match no empty text. -/
def consumes (regex : Regex) : Bool :=
  regex.leastLength?.any (0 < ·)

/-! ## Building -/

/-- The expression of a set. -/
def ofSet (chars : CharSet) : Regex :=
  match chars.only? with
  | some c => literal [c]
  | none => set chars

/-- Puts a part before a row; two literals become one. -/
def cons : Regex → List Regex → List Regex
  | literal s, literal t :: rest => literal (s ++ t) :: rest
  | part, rest => part :: rest

/-- The expression of some parts that form a row as they are. -/
def chain : List Regex → Regex
  | [] => empty
  | [part] => part
  | part :: rest => seq part (chain rest)

/-- The expression of some parts in a row. -/
def ofParts (subs : List Regex) : Regex :=
  chain ((subs.flatMap parts).foldr cons [])

/-- The expression of a choice between branches as they are. -/
def choice : List Regex → Regex
  | [] => set .none
  | [branch] => branch
  | branch :: rest => alt branch (choice rest)

/-- The code point of a literal of one character. -/
def singleton? : Regex → Option Nat
  | literal [c] => some c.toNat
  | _ => none

/-- The set of an expression that is one. -/
def set? : Regex → Option CharSet
  | set chars => some chars
  | _ => none

/-- The row of an expression of more than one part. -/
def row? : Regex → Option (List Regex)
  | seq first second => some (first :: second.parts)
  | _ => none

/-- The front that two lists have in common. -/
def common : List Regex → List Regex → List Regex
  | a :: s, b :: t => if a = b then a :: common s t else []
  | _, _ => []

/-- The parts that all rows begin with. -/
def commonFront : List (List Regex) → List Regex
  | [] => []
  | row :: rest => rest.foldl common row

/-- The expression of a choice between branches, which are themselves no choices.
Branches that are all rows are freed of the parts that they all begin with, and
what is left of them may be a choice again. -/
def ofFlatBranches : Nat → List Regex → Regex
  | 0, subs => choice subs
  | rounds + 1, subs =>
    match subs with
    | [] | [_] => choice subs
    | _ =>
      match subs.mapM singleton?, subs.mapM set?, subs.mapM row? with
      | some codes, _, _ => ofSet (.ofCodes codes)
      | _, some sets, _ => ofSet (.unions sets)
      | _, _, some rows =>
        let front := commonFront rows
        if front.isEmpty then choice subs
        else
          let rests := rows.map fun row => ofParts (row.drop front.length)
          ofParts (front ++ [ofFlatBranches rounds (rests.flatMap branches)])
      | _, _, _ => choice subs

/-- The expression of a choice between branches; every round of freeing them of
common parts makes them smaller. -/
def ofBranches (subs : List Regex) : Regex :=
  ofFlatBranches (subs.foldr (fun sub total => sub.size + total) 0) (subs.flatMap branches)

/-- The expression of a repetition.  Rounds that match nothing are bounded to one. -/
def repeated (body : Regex) (least : Nat) (most : Option Nat) (greedy : Bool) : Regex :=
  let least := if body.isBlank then min least 1 else least
  let most := if body.isBlank then some (min (most.getD 1) 1) else most
  if least = 0 ∧ most = some 0 then empty
  else if least = 1 ∧ most = some 1 then body
  else repetition body least most greedy

end Regex

end PathQuery
