import PathQuery.Json.Printer
import PathQuery.Path.Step
import PathQuery.Select.Error
import PathQuery.Select.Settings

/-!
# Comparing nodes

Numbers are compared by value and strings by code point.  A string that is
written like a number is compared with a number as that number; all other nodes
of different kinds are ordered by their text.  Containers are equal to nothing
and in no order.
-/

namespace PathQuery

namespace Json

/-- The number that the text of a string denotes. -/
def numberOf? (s : String) : Option Number :=
  Number.ofText? s.toList

/-- If a node equals another, with strings read as numbers or booleans where the
other node is one. -/
def looseEquals : Json → Json → Bool
  | null, null => true
  | number a, number b => a.order b == .eq
  | string a, string b => a == b
  | bool a, bool b => a == b
  | number a, string s => (numberOf? s).any fun b => a.order b == .eq
  | string s, number a => (numberOf? s).any fun b => a.order b == .eq
  | bool b, string s => s == (if b then "true" else "false")
  | string s, bool b => s == (if b then "true" else "false")
  | _, _ => false

/-- If a node has the kind and the value of another. -/
def strictEquals : Json → Json → Bool
  | null, null => true
  | number a, number b => a.order b == .eq
  | string a, string b => a == b
  | bool a, bool b => a == b
  | _, _ => false

/-- The order of two nodes by their text. -/
def textOrder (left right : Json) : Ordering :=
  Text.order left.write right.write

/-- The order of two nodes. -/
def order : Json → Json → Ordering
  | string a, string b => Text.order a.toList b.toList
  | number a, number b => a.order b
  | bool _, bool _ => .eq
  | null, null => .eq
  | number a, string s =>
    match numberOf? s with
    | some b => a.order b
    | none => textOrder (number a) (string s)
  | string s, number b =>
    match numberOf? s with
    | some a => a.order b
    | none => textOrder (string s) (number b)
  | left, right => textOrder left right

end Json

namespace Settings

/-- Matches a text, unless that takes longer than the limit. -/
def timedMatch (settings : Settings) (regex : RegexLiteral) (text : String) :
    Except SelectError Bool :=
  match settings.exceeded regex text with
  | some limit => .error (.regexTimeout regex.pattern limit)
  | none => .ok (regex.isMatch text)

/-- Matches a string against a regular expression: the one given, or the one
that the text of the right node stands for. -/
def regexMatch (settings : Settings) (given : Option RegexLiteral) :
    Json → Json → Except SelectError Bool
  | .string text, .string pattern =>
    match given with
    | some regex => settings.timedMatch regex text
    | none =>
      match RegexLiteral.ofText pattern with
      | .ok regex => settings.timedMatch regex text
      | .error reason => .error (.invalidRegex pattern reason)
  | _, _ => .ok false

/-- If an operator holds between two nodes.  A container differs from everything
and is in no other relation. -/
def holdsBetween (settings : Settings) (operator : Operator) (given : Option RegexLiteral)
    (left right : Json) : Except SelectError Bool :=
  if left.kind.isContainer || right.kind.isContainer then
    .ok (operator == .present || operator == .notEquals)
  else
    match operator with
    | .matchesRegex => settings.regexMatch given left right
    | .equals => .ok (left.looseEquals right)
    | .notEquals => .ok (!left.looseEquals right)
    | .strictEquals => .ok (left.strictEquals right)
    | .strictNotEquals => .ok (!left.strictEquals right)
    | .greater => .ok (left.order right == .gt)
    | .greaterOrEqual => .ok (left.order right != .lt)
    | .less => .ok (left.order right == .lt)
    | .lessOrEqual => .ok (left.order right != .gt)
    | .present => .ok true

end Settings

end PathQuery
