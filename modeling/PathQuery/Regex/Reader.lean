import PathQuery.Power
import PathQuery.Regex.Pattern
import PathQuery.Regex.Trait
import PathQuery.Text
import PathQuery.Unicode.Additions

/-!
# Reading a pattern

The reader turns a text into a pattern.  Of the flags only the one that ignores
blanks and comments changes how a text is read, so it alone goes along with the
text.  Every round of a reader consumes a character, so the length of the text
bounds the rounds.
-/

namespace PathQuery.Pattern

/-- A reader consumes the front of a text, or refuses it. -/
abbrev Reader (α : Type) := List Char → Option (α × List Char)

/-! ## Blanks and numbers -/

/-- Drops blanks, and comments that run to the end of their line. -/
def dropBlanks (inComment : Bool) : List Char → List Char
  | [] => []
  | c :: rest =>
    if inComment then dropBlanks (c != '\n') rest
    else if Text.isWhiteSpace c then dropBlanks false rest
    else if c = '#' then dropBlanks true rest
    else c :: rest

/-- The text after blanks and comments, where they are ignored. -/
def skip (blanks : Bool) (text : List Char) : List Char :=
  if blanks then dropBlanks false text else text

/-- Reads decimal digits. -/
def readDigits (blanks : Bool) : Nat → List Char → List Char × List Char
  | 0, text => ([], text)
  | rounds + 1, text =>
    match text with
    | c :: rest =>
      if c.isDigit then
        let (digits, rest) := readDigits blanks rounds (skip blanks rest)
        (c :: digits, rest)
      else ([], text)
    | [] => ([], [])

/-- Reads a count of a repetition, with white space around it. -/
def readCount (blanks : Bool) : Reader Nat := fun text =>
  let text := text.dropWhile Text.isWhiteSpace
  let (digits, rest) := readDigits blanks text.length text
  let count := digits.foldl (fun n c => n * 10 + (c.toNat - '0'.toNat)) 0
  if digits.isEmpty ∨ 2 ^ 32 ≤ count then none
  else some (count, skip blanks (rest.dropWhile Text.isWhiteSpace))

/-! ## Escapes -/

/-- What stands for itself: a character, a named set or a place. -/
inductive Atom
  | char (c : WrittenChar)
  | named (set : SetName)
  | place (mark : PlaceMark)

/-- The value of a digit in base sixteen. -/
def hexDigit? (c : Char) : Option Nat :=
  if c.isDigit then some (c.toNat - '0'.toNat)
  else if 'a' ≤ c ∧ c ≤ 'f' then some (c.toNat - 'a'.toNat + 10)
  else if 'A' ≤ c ∧ c ≤ 'F' then some (c.toNat - 'A'.toNat + 10)
  else none

/-- The character of a code point, if it is one. -/
def charOfCode? (code : Nat) : Option Char :=
  if h : code.isValidChar then some (Char.ofNatAux code h) else none

/-- Reads a fixed number of digits in base sixteen. -/
def readHexDigits (blanks : Bool) : Nat → Nat → Reader Nat
  | 0, code, text => some (code, text)
  | count + 1, code, text =>
    match text with
    | [] => none
    | c :: rest => do
      let value ← hexDigit? c
      readHexDigits blanks count (code * 16 + value) (skip blanks rest)

/-- Reads digits in base sixteen up to a closing brace; `some` code once there
was a digit. -/
def readHexBraces (blanks : Bool) : Nat → Option Nat → Reader Nat
  | 0, _, _ => none
  | rounds + 1, code, text =>
    match skip blanks text with
    | [] => none
    | '\x7d' :: rest => code.map fun code => (code, skip blanks rest)
    | c :: rest => do
      let value ← hexDigit? c
      readHexBraces blanks rounds (some (code.getD 0 * 16 + value)) rest

/-- Reads the code after `x`, `u` or `U`, which is given by a number of digits or
between braces. -/
def readHex (blanks : Bool) (count : Nat) : Reader Atom := fun text =>
  match skip blanks text with
  | '\x7b' :: rest => do
    let (code, rest) ← readHexBraces blanks (rest.length + 1) none rest
    return (.char ⟨← charOfCode? code, false⟩, rest)
  | text => do
    let (code, rest) ← readHexDigits blanks count 0 text
    return (.char ⟨← charOfCode? code, count == 2⟩, rest)

/-- Reads the name of a property up to its closing brace. -/
def readPropertyName (blanks : Bool) : Nat → Reader (List Char)
  | 0, _ => none
  | rounds + 1, text =>
    match skip blanks text with
    | [] => none
    | '\x7d' :: rest => some ([], rest)
    | c :: rest =>
      (readPropertyName blanks rounds rest).map fun (name, rest) => (c :: name, rest)

/-- Reads the property after `p` or `P`. -/
def readProperty (blanks outside : Bool) : Reader Atom := fun text => do
  let (name, rest) ←
    match skip blanks text with
    | [] => none
    | '\\' :: _ => none
    | '\x7b' :: rest => readPropertyName blanks (rest.length + 1) rest
    | c :: rest => some ([c], skip blanks rest)
  return (.named (.property name outside), rest)

/-- The set that a letter stands for after a backslash. -/
def letterSet? : Char → Option SetName
  | 'd' => some (.letter .digit false)
  | 'D' => some (.letter .digit true)
  | 's' => some (.letter .space false)
  | 'S' => some (.letter .space true)
  | 'w' => some (.letter .word false)
  | 'W' => some (.letter .word true)
  | _ => none

/-- The control character that a letter stands for after a backslash. -/
def letterControl? : Char → Option Char
  | 'a' => some '\x07'
  | 'f' => some '\x0c'
  | 't' => some '\t'
  | 'n' => some '\n'
  | 'r' => some '\r'
  | 'v' => some '\x0b'
  | _ => none

/-- The place that a character stands for after a backslash. -/
def letterPlace? : Char → Option PlaceMark
  | 'A' => some .textStart
  | 'z' => some .textEnd
  | 'B' => some .noWordBoundary
  | '<' => some .wordStart
  | '>' => some .wordEnd
  | _ => none

/-- The place named between braces after a word boundary. -/
def namedBoundary? (name : List Char) : Option PlaceMark :=
  if name = "start".toList then some .wordStart
  else if name = "end".toList then some .wordEnd
  else if name = "start-half".toList then some .wordStartHalf
  else if name = "end-half".toList then some .wordEndHalf
  else none

/-- If a character may belong to the name of a word boundary. -/
def isBoundaryNameChar (c : Char) : Bool :=
  c.isAlpha || c == '-'

/-- Reads the name of a word boundary. -/
def readBoundaryName (blanks : Bool) : Nat → List Char → List Char × List Char
  | 0, text => ([], text)
  | rounds + 1, text =>
    match text with
    | c :: rest =>
      if isBoundaryNameChar c then
        let (name, rest) := readBoundaryName blanks rounds (skip blanks rest)
        (c :: name, rest)
      else ([], text)
    | [] => ([], [])

/-- Reads what follows a word boundary: a name between braces makes it another
place, and braces that hold no name are a repetition. -/
def readBoundary (blanks : Bool) : Reader Atom := fun text =>
  match text with
  | '\x7b' :: inside =>
    match skip blanks inside with
    | [] => none
    | c :: rest =>
      if isBoundaryNameChar c then
        match readBoundaryName blanks (rest.length + 1) (c :: rest) with
        | (name, '\x7d' :: rest) => (namedBoundary? name).map fun mark => (.place mark, rest)
        | _ => none
      else some (.place .wordBoundary, text)
  | _ => some (.place .wordBoundary, text)

/-- If a character stands for itself after a backslash: any character of ASCII
that is neither a letter nor a digit nor an angle bracket. -/
def standsForItself (c : Char) : Bool :=
  c.toNat < 0x80 && !c.isAlphanum && c != '<' && c != '>'

/-- Reads what follows a backslash. -/
def readEscape (blanks : Bool) : Reader Atom
  | [] => none
  | c :: rest =>
    if c = 'x' then readHex blanks 2 rest
    else if c = 'u' then readHex blanks 4 rest
    else if c = 'U' then readHex blanks 8 rest
    else if c = 'p' then readProperty blanks false rest
    else if c = 'P' then readProperty blanks true rest
    else if c = 'b' then readBoundary blanks rest
    else if standsForItself c then some (.char ⟨c, false⟩, rest)
    else
      match letterSet? c, letterControl? c, letterPlace? c with
      | some set, _, _ => some (.named set, rest)
      | _, some control, _ => some (.char ⟨control, false⟩, rest)
      | _, _, some mark => some (.place mark, rest)
      | _, _, _ => none

/-! ## Classes -/

/-- Reads a member of a class in brackets: a character or a backslash sequence. -/
def readClassAtom (blanks : Bool) : Reader Atom
  | [] => none
  | '\\' :: rest => readEscape blanks rest
  | c :: rest => some (.char ⟨c, false⟩, rest)

/-- The first character of a text that is no blank; a number sign is passed over
as well, but not what follows it. -/
def firstMarked (inComment : Bool) : List Char → Option Char
  | [] => none
  | c :: rest =>
    if Text.isWhiteSpace c then firstMarked inComment rest
    else if !inComment && c == '#' then firstMarked true rest
    else some c

/-- The character that tells whether a hyphen in front of a text makes a range. -/
def rangeMark (blanks : Bool) (text : List Char) : Option Char :=
  if blanks then firstMarked false text else text.head?

/-- Reads a character, a set or a range of characters inside brackets. -/
def readClassItem (blanks : Bool) : Reader ClassItem := fun text => do
  let (first, rest) ← readClassAtom blanks text
  let rest := skip blanks rest
  let isRange :=
    match rest with
    | '-' :: after =>
      let mark := rangeMark blanks after
      mark != some ']' && mark != some '-'
    | _ => false
  if isRange then
    let (last, rest) ← readClassAtom blanks (skip blanks (rest.drop 1))
    match first, last with
    | .char a, .char b => if a.char ≤ b.char then some (.range a b, rest) else none
    | _, _ => none
  else if rest.isEmpty then none
  else
    match first with
    | .char c => some (.char c, rest)
    | .named set => some (.named set, rest)
    | .place _ => none

/-- The names of the classes of ASCII. -/
def asciiNames : List String :=
  ["alnum", "alpha", "ascii", "blank", "cntrl", "digit", "graph", "lower", "print", "punct",
    "space", "upper", "word", "xdigit"]

/-- Reads an ASCII class after its first bracket, if there is one. -/
def readAsciiClass : Reader ClassItem
  | ':' :: text =>
    let (outside, text) := match text with
      | '^' :: rest => (true, rest)
      | _ => (false, text)
    match text.span (· != ':') with
    | (name, ':' :: ']' :: rest) =>
      let name := String.ofList name
      if name ∈ asciiNames then some (.ascii name outside, rest) else none
    | _ => none
  | _ => none

/-- Reads the hyphens and the bracket that stand for themselves at the beginning
of a class; the flag tells whether there was one. -/
def readClassStart (blanks any : Bool) : Nat → List Char → List ClassItem × List Char
  | 0, text => ([], text)
  | rounds + 1, text =>
    match text with
    | '-' :: rest =>
      let (items, rest) := readClassStart blanks true rounds (skip blanks rest)
      (.char ⟨'-', false⟩ :: items, rest)
    | ']' :: rest =>
      if any then ([], text) else ([.char ⟨']', false⟩], skip blanks rest)
    | _ => ([], text)

/-- Reads the caret of a class that asks for all other characters. -/
def readOutside (blanks : Bool) (text : List Char) : Bool × List Char :=
  match skip blanks text with
  | '^' :: rest => (true, skip blanks rest)
  | text => (false, text)

/-- The item of an operation that waits for its right side, which are the items
read since, the last one first. -/
def finishOperation (pending : Option (SetOperation × ClassItem)) (items : List ClassItem) :
    ClassItem :=
  match pending with
  | none => .ofItems items.reverse
  | some (operation, left) => .operation operation left (.ofItems items.reverse)

/-- Reads the inside of a class up to its closing bracket: `items` are those read
since the last operation, the last one first, and `pending` is that operation. -/
def readClassBody (blanks : Bool) :
    Nat → Option (SetOperation × ClassItem) → List ClassItem → Reader ClassItem
  | 0, _, _, _ => none
  | rounds + 1, pending, items, text =>
    match skip blanks text with
    | [] => none
    | ']' :: rest => some (finishOperation pending items, rest)
    | '[' :: rest =>
      match readAsciiClass rest with
      | some (item, rest) => readClassBody blanks rounds pending (item :: items) rest
      | none => do
        let (outside, rest) := readOutside blanks rest
        let (start, rest) := readClassStart blanks false (rest.length + 1) rest
        let (inside, rest) ← readClassBody blanks rounds none start.reverse rest
        readClassBody blanks rounds pending (.bracket outside inside :: items) rest
    | '&' :: '&' :: rest =>
      readClassBody blanks rounds (some (.intersection, finishOperation pending items)) [] rest
    | '-' :: '-' :: rest =>
      readClassBody blanks rounds (some (.difference, finishOperation pending items)) [] rest
    | '~' :: '~' :: rest =>
      readClassBody blanks rounds
        (some (.symmetricDifference, finishOperation pending items)) [] rest
    | text => do
      let (item, rest) ← readClassItem blanks text
      readClassBody blanks rounds pending (item :: items) rest

/-- Reads a class after its opening bracket. -/
def readClass (blanks : Bool) : Reader Pattern := fun text => do
  let (outside, rest) := readOutside blanks text
  let (start, rest) := readClassStart blanks false (rest.length + 1) rest
  let (inside, rest) ← readClassBody blanks (rest.length + 1) none start.reverse rest
  return (.bracket outside inside, rest)

/-! ## Groups -/

/-- What a parenthesis opens: a group that keeps what it matches, a group with
flags of its own, or a change of the flags that are in force. -/
inductive GroupHeader
  | capture
  | group (change : FlagChange)
  | flags (change : FlagChange)

/-- If blanks are ignored after a change of flags. -/
def blanksAfter (blanks : Bool) (change : FlagChange) : Bool :=
  change.foldl (fun blanks item => if item.1 = .ignoreBlanks then item.2 else blanks) blanks

/-- Reads the flags of a group: each at most once, and a hyphen before those that
are cleared.  The change so far is `change`, and `seen` are its letters. -/
def readFlags (change : FlagChange) (seen : List Char) : Reader GroupHeader
  | [] => none
  | c :: rest =>
    if c = ':' ∨ c = ')' then
      if seen.head? = some '-' then none
      else if c = ':' then some (.group change, rest)
      else if seen.isEmpty then none
      else some (.flags change, rest)
    else if c ∈ seen then none
    else if c = '-' then readFlags change ('-' :: seen) rest
    else
      match Flag.ofLetter? c with
      | some flag => readFlags (change ++ [(flag, !seen.contains '-')]) (c :: seen) rest
      | none => none

/-- The names of the groups so far, the last one first, with `none` for a group
without a name. -/
abbrev GroupNames := List (Option (List Char))

/-- The letters of group names, which follow Unicode 17. -/
def nameLetters : CharSet :=
  CharSet.alphabetic.union (.ofTable Unicode.addedAlphabetic)

/-- The numbers of group names, which follow Unicode 17. -/
def nameNumbers : CharSet :=
  CharSet.number.union (.ofTable Unicode.addedNumbers)

/-- If a character may begin the name of a group. -/
def isNameStart (c : Char) : Bool :=
  c == '_' || nameLetters.contains c.toNat

/-- If a character may stand in the name of a group. -/
def isNameChar (c : Char) : Bool :=
  isNameStart c || c == '.' || c == '[' || c == ']' || nameNumbers.contains c.toNat

/-- Reads the name of a group up to its closing angle bracket. -/
def readGroupName : Reader (List Char) := fun text =>
  match text.span (· != '>') with
  | (c :: name, '>' :: rest) =>
    if isNameStart c && name.all isNameChar then some (c :: name, rest) else none
  | _ => none

/-- Reads a group name that is not in use yet. -/
def readNewName (names : GroupNames) : Reader (GroupHeader × GroupNames) := fun text => do
  let (name, rest) ← readGroupName text
  if some name ∈ names then none else some ((.capture, some name :: names), rest)

/-- Reads what follows an opening parenthesis, with the names of groups so far. -/
def readGroupHeader (blanks : Bool) (names : GroupNames) :
    Reader (GroupHeader × GroupNames) := fun text =>
  match skip blanks text with
  | '?' :: '=' :: _ | '?' :: '!' :: _ => none
  | '?' :: '<' :: '=' :: _ | '?' :: '<' :: '!' :: _ => none
  | '?' :: 'P' :: '<' :: rest => readNewName names rest
  | '?' :: '<' :: rest => readNewName names rest
  | '?' :: rest => (readFlags [] [] rest).map fun (header, rest) => ((header, names), rest)
  | text => some ((.capture, none :: names), text)

/-! ## The whole -/

/-- Reads one character, class or place. -/
def readAtom (blanks : Bool) : Reader Pattern
  | [] => none
  | '.' :: rest => some (.dot, rest)
  | '^' :: rest => some (.place .caret, rest)
  | '$' :: rest => some (.place .dollar, rest)
  | '[' :: rest => readClass blanks rest
  | '\\' :: rest => do
    let (atom, rest) ← readEscape blanks rest
    match atom with
    | .char c => some (.char c, rest)
    | .named set => some (.named set, rest)
    | .place mark => some (.place mark, rest)
  | c :: rest => some (.char ⟨c, false⟩, rest)

/-- How often a part is repeated, and if many rounds are preferred. -/
structure Repetition where
  least : Nat
  most : Option Nat
  greedy : Bool

/-- Reads the mark of a repetition that prefers few rounds, if there is one. -/
def readGreed (least : Nat) (most : Option Nat) : List Char → Repetition × List Char
  | '?' :: rest => (⟨least, most, false⟩, rest)
  | text => (⟨least, most, true⟩, text)

/-- Reads the bounds of a counted repetition after its opening brace. -/
def readBounds (blanks : Bool) : Reader Repetition := fun text => do
  let (least, rest) ← readCount blanks (skip blanks text)
  let (most, rest) ←
    match rest with
    | ',' :: rest =>
      match skip blanks rest with
      | '\x7d' :: rest => some (none, '\x7d' :: rest)
      | text => (readCount blanks text).map fun (most, rest) => (some most, rest)
    | _ => some (some least, rest)
  match rest with
  | '\x7d' :: rest =>
    if most.all (least ≤ ·) then some (readGreed least most (skip blanks rest)) else none
  | _ => none

/-- Reads a repetition mark. -/
def readRepetition (blanks : Bool) : Reader Repetition
  | '*' :: rest => some (readGreed 0 none rest)
  | '+' :: rest => some (readGreed 1 none rest)
  | '?' :: rest => some (readGreed 0 (some 1) rest)
  | '\x7b' :: rest => readBounds blanks rest
  | _ => none

/-- If a character begins a repetition mark. -/
def isRepetitionMark (c : Char) : Bool :=
  c == '*' || c == '+' || c == '?' || c == '\x7b'

/-- The branches before the current one, with its parts as one more of them; all of
them the last one first. -/
def closeBranch (before parts : List Pattern) : List Pattern :=
  ofParts parts.reverse :: before

/-- Reads branches up to a closing parenthesis or the end of the text.  The
branches before the current one are `before`, and the parts of the current one
are `parts`, each the last one first. -/
def readBranches : Nat → Bool → GroupNames → List Pattern → List Pattern →
    Reader (Pattern × GroupNames)
  | 0, _, _, _, _, _ => none
  | rounds + 1, blanks, names, before, parts, text =>
    match skip blanks text with
    | [] => some ((ofBranches (closeBranch before parts).reverse, names), [])
    | ')' :: rest => some ((ofBranches (closeBranch before parts).reverse, names), ')' :: rest)
    | '|' :: rest => readBranches rounds blanks names (closeBranch before parts) [] rest
    | '(' :: rest => do
      let ((header, names), rest) ← readGroupHeader blanks names rest
      match header with
      | .flags change =>
        readBranches rounds (blanksAfter blanks change) names before (.flags change :: parts) rest
      | .group change =>
        let ((body, names), rest) ←
          readBranches rounds (blanksAfter blanks change) names [] [] rest
        match rest with
        | ')' :: rest =>
          readBranches rounds blanks names before (.group change body :: parts) rest
        | _ => none
      | .capture =>
        let index := names.length
        let ((body, names), rest) ← readBranches rounds blanks names [] [] rest
        match rest with
        | ')' :: rest =>
          readBranches rounds blanks names before (.capture index body :: parts) rest
        | _ => none
    | c :: rest =>
      if isRepetitionMark c then
        match parts with
        | body :: parts =>
          if body.isRepeatable then do
            let (bounds, rest) ← readRepetition blanks (c :: rest)
            readBranches rounds blanks names before
              (.repetition body bounds.least bounds.most bounds.greedy :: parts) rest
          else none
        | [] => none
      else do
        let (atom, rest) ← readAtom blanks (c :: rest)
        readBranches rounds blanks names before (atom :: parts) rest

/-- Reads a whole pattern. -/
def read (blanks : Bool) (text : String) : Option Pattern :=
  match readBranches (text.toList.length + 1) blanks [] [] [] text.toList with
  | some ((pattern, _), []) => some pattern
  | _ => none

end PathQuery.Pattern
