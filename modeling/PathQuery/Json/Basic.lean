import PathQuery.Number.Numeral

/-!
# Documents

A document is a JSON value.  The members of an object keep the order in which
they were declared.
-/

namespace PathQuery

/-- A JSON value. -/
inductive Json
  | null
  | bool (value : Bool)
  | number (value : Number)
  | string (value : String)
  | array (items : List Json)
  | object (members : List (String × Json))

/-- The kinds of JSON values. -/
inductive Kind
  | object
  | array
  | string
  | number
  | boolean
  | null
deriving DecidableEq

namespace Kind

/-- The name of a kind in messages. -/
def name : Kind → String
  | object => "object"
  | array => "array"
  | string => "string"
  | number => "number"
  | boolean => "boolean"
  | null => "null"

/-- Objects and arrays hold other values. -/
def isContainer : Kind → Bool
  | object | array => true
  | string | number | boolean | null => false

end Kind

namespace Json

/-- The kind of a value. -/
def kind : Json → Kind
  | null => .null
  | bool _ => .boolean
  | number _ => .number
  | string _ => .string
  | array _ => .array
  | object _ => .object

/-- The value of a member, if the object has one of that name. -/
def member? (name : String) (members : List (String × Json)) : Option Json :=
  members.lookup name

/-- The values directly inside a value, with their names inside an object. -/
def entries : Json → List (Option String × Json)
  | array items => items.map fun item => (none, item)
  | object members => members.map fun member => (some member.1, member.2)
  | _ => []

/-- The values directly inside a value, in document order. -/
def children (node : Json) : List Json :=
  node.entries.map (·.2)

/-- Sets a member: a new name goes to the end, a name that is present keeps its
place. -/
def setMember (name : String) (value : Json) :
    List (String × Json) → List (String × Json)
  | [] => [(name, value)]
  | member :: rest =>
    if member.1 = name then (name, value) :: rest else member :: setMember name value rest

mutual

/-- The number of values in a document, itself included. -/
def size : Json → Nat
  | array items => sizeItems items + 1
  | object members => sizeMembers members + 1
  | _ => 1

/-- The number of values in a list of documents. -/
def sizeItems : List Json → Nat
  | [] => 0
  | item :: rest => size item + sizeItems rest

/-- The number of values in the members of an object. -/
def sizeMembers : List (String × Json) → Nat
  | [] => 0
  | (_, value) :: rest => size value + sizeMembers rest

end

mutual

/-- If two values are the same constant: numbers by value within integers and
within doubles, objects whatever the order of their members. -/
def same : Json → Json → Bool
  | null, null => true
  | bool a, bool b => a == b
  | number a, number b => a.same b
  | string a, string b => a == b
  | array a, array b => sameItems a b
  | object a, object b => a.length == b.length && sameMembers a b
  | _, _ => false

/-- If two lists of values are the same, place by place. -/
def sameItems : List Json → List Json → Bool
  | [], [] => true
  | a :: s, b :: t => same a b && sameItems s t
  | _, _ => false

/-- If every member is the same as the one of its name in the other object. -/
def sameMembers : List (String × Json) → List (String × Json) → Bool
  | [], _ => true
  | (name, value) :: rest, other =>
    (match member? name other with
      | some found => same value found
      | none => false) && sameMembers rest other

end

end Json

end PathQuery
