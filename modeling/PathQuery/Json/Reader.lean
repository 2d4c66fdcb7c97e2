import PathQuery.Json.Basic

/-!
# Reading a document

The reader accepts one JSON value with blanks around it.  Containers may stand
inside each other up to a fixed depth, unpaired surrogates are refused, and so
are numbers beyond the largest double.
-/

namespace PathQuery.Json

/-- A reader consumes the front of a text, or refuses it. -/
abbrev Reader (α : Type) := List Char → Option (α × List Char)

/-- The blanks of a document: space, tab, line feed and carriage return. -/
def isSpace (c : Char) : Bool :=
  c == ' ' || c == '\t' || c == '\n' || c == '\r'

/-- The text after its leading blanks. -/
def skipSpace (text : List Char) : List Char :=
  text.dropWhile isSpace

/-- A piece of a string: a character, or one 16-bit unit of an escape. -/
inductive Piece
  | char (c : Char)
  | unit (code : Nat)

/-- The value of a digit in base sixteen. -/
def hexDigit? (c : Char) : Option Nat :=
  if c.isDigit then some (c.toNat - '0'.toNat)
  else if 'a' ≤ c ∧ c ≤ 'f' then some (c.toNat - 'a'.toNat + 10)
  else if 'A' ≤ c ∧ c ≤ 'F' then some (c.toNat - 'A'.toNat + 10)
  else none

/-- The value of four digits in base sixteen. -/
def hexUnit? (a b c d : Char) : Option Nat := do
  return (((← hexDigit? a) * 16 + (← hexDigit? b)) * 16 + (← hexDigit? c)) * 16 + (← hexDigit? d)

/-- The character that a letter stands for after a backslash. -/
def unescape? : Char → Option Char
  | '"' => some '"'
  | '\\' => some '\\'
  | '/' => some '/'
  | 'b' => some '\x08'
  | 'f' => some '\x0c'
  | 'n' => some '\n'
  | 'r' => some '\r'
  | 't' => some '\t'
  | _ => none

/-- Reads the pieces of a string up to its closing quote. -/
def readPieces : Reader (List Piece)
  | [] => none
  | '"' :: rest => some ([], rest)
  | '\\' :: 'u' :: a :: b :: c :: d :: rest => do
    let code ← hexUnit? a b c d
    let (pieces, rest) ← readPieces rest
    return (.unit code :: pieces, rest)
  | '\\' :: letter :: rest => do
    let c ← unescape? letter
    let (pieces, rest) ← readPieces rest
    return (.char c :: pieces, rest)
  | c :: rest =>
    if c = '\\' ∨ c.toNat < 0x20 then none
    else do
      let (pieces, rest) ← readPieces rest
      return (.char c :: pieces, rest)

/-- Joins the pieces to characters; a surrogate needs its partner. -/
def joinPieces : List Piece → Option (List Char)
  | [] => some []
  | .char c :: rest => (joinPieces rest).map (c :: ·)
  | .unit high :: .unit low :: rest =>
    if 0xD800 ≤ high ∧ high < 0xDC00 then
      if 0xDC00 ≤ low ∧ low < 0xE000 then
        (joinPieces rest).map
          (Char.ofNat (0x10000 + (high - 0xD800) * 0x400 + (low - 0xDC00)) :: ·)
      else none
    else if 0xDC00 ≤ high ∧ high < 0xE000 then none
    else (joinPieces (.unit low :: rest)).map (Char.ofNat high :: ·)
  | .unit code :: rest =>
    if 0xD800 ≤ code ∧ code < 0xE000 then none
    else (joinPieces rest).map (Char.ofNat code :: ·)

/-- Reads a string after its opening quote. -/
def readString : Reader String := fun text => do
  let (pieces, rest) ← readPieces text
  let chars ← joinPieces pieces
  return (String.ofList chars, rest)

/-- Reads a word that stands for a value. -/
def readWord (word : List Char) (value : Json) : Reader Json := fun text =>
  if word.isPrefixOf text then some (value, text.drop word.length) else none

/-- Reads a value that holds no others. -/
def readScalar : Reader Json
  | [] => none
  | '"' :: rest => (readString rest).map fun (s, rest) => (.string s, rest)
  | 't' :: rest => readWord ['r', 'u', 'e'] (.bool true) rest
  | 'f' :: rest => readWord ['a', 'l', 's', 'e'] (.bool false) rest
  | 'n' :: rest => readWord ['u', 'l', 'l'] .null rest
  | text => do
    let (numeral, rest) ← Numeral.read text
    let value ← numeral.value
    return (.number value, rest)

/-- Reads the items of an array that is not empty, up to its bracket; every
round consumes a character, so the length of the text bounds their number. -/
def readItems (item : Reader Json) : Nat → Reader (List Json)
  | 0, _ => none
  | rounds + 1, text => do
    let (value, rest) ← item (skipSpace text)
    match skipSpace rest with
    | ']' :: rest => return ([value], rest)
    | ',' :: rest =>
      let (items, rest) ← readItems item rounds rest
      return (value :: items, rest)
    | _ => none

/-- Reads a name, a colon and a value. -/
def readMember (item : Reader Json) : Reader (String × Json)
  | '"' :: rest => do
    let (name, rest) ← readString rest
    match skipSpace rest with
    | ':' :: rest =>
      let (value, rest) ← item (skipSpace rest)
      return ((name, value), rest)
    | _ => none
  | _ => none

/-- Reads the members of an object that is not empty, up to its brace. -/
def readMembers (item : Reader Json) : Nat → Reader (List (String × Json))
  | 0, _ => none
  | rounds + 1, text => do
    let (member, rest) ← readMember item (skipSpace text)
    match skipSpace rest with
    | '}' :: rest => return ([member], rest)
    | ',' :: rest =>
      let (members, rest) ← readMembers item rounds rest
      return (member :: members, rest)
    | _ => none

/-- The object of some declarations; a repeated name keeps its first place and
takes its last value. -/
def ofDeclarations (declarations : List (String × Json)) : Json :=
  .object (declarations.foldl (fun members d => setMember d.1 d.2 members) [])

/-- Reads a value that may hold `depth` containers inside each other. -/
def readValue : Nat → Reader Json
  | 0, text => readScalar text
  | depth + 1, text =>
    match text with
    | '[' :: rest =>
      match skipSpace rest with
      | ']' :: rest => some (.array [], rest)
      | rest => (readItems (readValue depth) rest.length rest).map fun (items, rest) =>
        (.array items, rest)
    | '{' :: rest =>
      match skipSpace rest with
      | '}' :: rest => some (.object [], rest)
      | rest => (readMembers (readValue depth) rest.length rest).map fun (members, rest) =>
        (ofDeclarations members, rest)
    | text => readScalar text

/-- The number of containers that may stand inside each other. -/
def maxDepth : Nat := 127

/-- Reads a whole document. -/
def read (text : String) : Option Json :=
  match readValue maxDepth (skipSpace text.toList) with
  | some (node, rest) => if (skipSpace rest).isEmpty then some node else none
  | none => none

end PathQuery.Json
