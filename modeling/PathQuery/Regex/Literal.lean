import PathQuery.Regex.Extent
import PathQuery.Regex.Match
import PathQuery.Regex.Meaning
import PathQuery.Regex.Reader

/-!
# Regular expression literals

A literal `/pattern/flags` keeps its text and the regular expression that the
text stands for.  The proof that the one was made from the other is part of the
literal, so literals with the same text are equal.
-/

namespace PathQuery

/-- Why a text is no literal of a regular expression. -/
inductive RegexFault
  | delimiters
  | pattern
deriving DecidableEq

/-- The words for a fault; what is wrong with a pattern is not told further. -/
def RegexFault.message : RegexFault → String
  | delimiters => "expected /pattern/flags"
  | pattern => "<reason>"

namespace RegexLiteral

/-- If a character with this text before it, the nearest character first, is
escaped by an odd number of backslashes. -/
def isEscaped (before : List Char) : Bool :=
  (before.takeWhile (· == '\\')).length % 2 == 1

/-- Goes back through a text, the last character first, to a slash that is not
escaped; `flags` is what stands behind. -/
def splitBack : List Char → List Char → Option (List Char × List Char)
  | [], _ => none
  | c :: before, flags =>
    if c = '/' ∧ isEscaped before = false then some (before.reverse, flags)
    else splitBack before (c :: flags)

/-- The pattern and the flags of `/pattern/flags`, split at the last slash that is
not escaped. -/
def split? : List Char → Option (List Char × List Char)
  | '/' :: rest => splitBack rest.reverse []
  | _ => none

/-- The flags that some letters set; letters without a meaning are ignored. -/
def flagsOf (letters : List Char) : Regex.Flags :=
  { ignoreCase := letters.contains 'i'
    multiLine := letters.contains 'm'
    dotAll := letters.contains 's'
    ignoreBlanks := letters.contains 'x' }

/-- The regular expression of a pattern under some flags: a pattern that is too deep,
and an expression that is too large, are refused. -/
def regex? (flags : Regex.Flags) (text : String) : Option Regex := do
  let pattern ← Pattern.read flags.ignoreBlanks text
  if Pattern.depthLimit < pattern.depth then none
  let (regex, _) ← Regex.meaning? flags pattern
  if regex.fits then some regex else none

/-- The pattern and the regular expression of a text. -/
def compile (text : String) : Except RegexFault (String × Regex) :=
  match split? text.toList with
  | none => .error .delimiters
  | some (pattern, letters) =>
    match regex? (flagsOf letters) (String.ofList pattern) with
    | none => .error .pattern
    | some regex => .ok (String.ofList pattern, regex)

end RegexLiteral

/-- A text `/pattern/flags` with the regular expression that it stands for. -/
structure RegexLiteral where
  text : String
  pattern : String
  regex : Regex
  compiled : RegexLiteral.compile text = .ok (pattern, regex)

namespace RegexLiteral

/-- Reads a literal. -/
def ofText (text : String) : Except RegexFault RegexLiteral :=
  match h : compile text with
  | .ok (pattern, regex) => .ok ⟨text, pattern, regex, h⟩
  | .error fault => .error fault

/-- If a literal matches somewhere in a text. -/
def isMatch (literal : RegexLiteral) (text : String) : Bool :=
  literal.regex.isMatch text

/-- Literals with the same text are equal. -/
theorem eq_of_text {a b : RegexLiteral} (h : a.text = b.text) : a = b := by
  obtain ⟨text, pattern, regex, compiled⟩ := a
  obtain ⟨text', pattern', regex', compiled'⟩ := b
  simp only at h
  subst h
  have hsame := compiled.symm.trans compiled'
  simp only [Except.ok.injEq, Prod.mk.injEq] at hsame
  obtain ⟨rfl, rfl⟩ := hsame
  rfl

/-- Reading the text of a literal gives the literal back. -/
theorem ofText_text (literal : RegexLiteral) : ofText literal.text = .ok literal := by
  unfold ofText
  split
  · exact congrArg Except.ok (eq_of_text rfl)
  · rename_i fault h
    rw [literal.compiled] at h
    cases h

theorem text_of_ofText {text : String} {literal : RegexLiteral}
    (h : ofText text = .ok literal) : literal.text = text := by
  unfold ofText at h
  split at h
  · cases h
    rfl
  · cases h

end RegexLiteral

end PathQuery
