import PathQuery.Json.Basic

/-!
# The text of a document

A document is written without blanks, or on lines of its own with two blanks for
each level.  Strings escape the quote, the backslash and the control characters,
and nothing else.
-/

namespace PathQuery.Json

/-- The last two digits, in base sixteen, of the code of a control character. -/
def hexByte (n : Nat) : List Char :=
  [Nat.digitChar (n / 16), Nat.digitChar (n % 16)]

/-- The written form of one character of a string. -/
def escapeChar (c : Char) : List Char :=
  if c = '"' then ['\\', '"']
  else if c = '\\' then ['\\', '\\']
  else if c = '\x08' then ['\\', 'b']
  else if c = '\t' then ['\\', 't']
  else if c = '\n' then ['\\', 'n']
  else if c = '\x0c' then ['\\', 'f']
  else if c = '\r' then ['\\', 'r']
  else if c.toNat < 0x20 then '\\' :: 'u' :: '0' :: '0' :: hexByte c.toNat
  else [c]

/-- A string between quotes. -/
def writeString (s : String) : List Char :=
  '"' :: s.toList.flatMap escapeChar ++ ['"']

mutual

/-- The text without blanks. -/
def write : Json → List Char
  | null => ['n', 'u', 'l', 'l']
  | bool true => ['t', 'r', 'u', 'e']
  | bool false => ['f', 'a', 'l', 's', 'e']
  | number value => value.text
  | string value => writeString value
  | array items => '[' :: writeItems items ++ [']']
  | object members => '{' :: writeMembers members ++ ['}']

/-- Values with commas between them. -/
def writeItems : List Json → List Char
  | [] => []
  | [item] => write item
  | item :: rest => write item ++ ',' :: writeItems rest

/-- Members with commas between them. -/
def writeMembers : List (String × Json) → List Char
  | [] => []
  | [(name, value)] => writeString name ++ ':' :: write value
  | (name, value) :: rest => writeString name ++ ':' :: write value ++ ',' :: writeMembers rest

end

/-- A line break and the indent of a level. -/
def newLine (level : Nat) : List Char :=
  '\n' :: List.replicate (2 * level) ' '

mutual

/-- The text on lines of its own, inside `level` containers. -/
def writePretty (level : Nat) : Json → List Char
  | array [] => ['[', ']']
  | array (item :: rest) =>
    '[' :: writePrettyItems (level + 1) (item :: rest) ++ newLine level ++ [']']
  | object [] => ['{', '}']
  | object (member :: rest) =>
    '{' :: writePrettyMembers (level + 1) (member :: rest) ++ newLine level ++ ['}']
  | null => ['n', 'u', 'l', 'l']
  | bool true => ['t', 'r', 'u', 'e']
  | bool false => ['f', 'a', 'l', 's', 'e']
  | number value => value.text
  | string value => writeString value

/-- Values, each on a line of its own. -/
def writePrettyItems (level : Nat) : List Json → List Char
  | [] => []
  | [item] => newLine level ++ writePretty level item
  | item :: rest => newLine level ++ writePretty level item ++ ',' :: writePrettyItems level rest

/-- Members, each on a line of its own. -/
def writePrettyMembers (level : Nat) : List (String × Json) → List Char
  | [] => []
  | [(name, value)] =>
    newLine level ++ writeString name ++ ':' :: ' ' :: writePretty level value
  | (name, value) :: rest =>
    newLine level ++ writeString name ++ ':' :: ' ' :: writePretty level value ++
      ',' :: writePrettyMembers level rest

end

/-- The compact text of a document. -/
def compact (node : Json) : String :=
  String.ofList node.write

/-- The text of a document with one value a line. -/
def pretty (node : Json) : String :=
  String.ofList (node.writePretty 0)

end PathQuery.Json
