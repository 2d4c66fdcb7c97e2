import PathQuery.Command.Arguments
import PathQuery.Command.Directory
import PathQuery.Json.Printer
import PathQuery.Json.Reader
import PathQuery.Select.Selection

/-!
# Tasks

A task selects from a document, lists the steps of a path, or checks a path.
Its report is the text that it prints, or the words for what went wrong.
-/

namespace PathQuery.Command

/-- What a selection prints: all nodes or the only one, on one line each or not,
and under which settings. -/
structure SelectTask where
  path : String
  file : Option String
  one : Bool
  compact : Bool
  settings : Settings

/-- What the command is to do. -/
inductive Task
  | select (task : SelectTask)
  | explain (path : String)
  | check (path : String)

/-- A task and the file that its report goes to, if not to standard output. -/
structure Invocation where
  task : Task
  output : Option String

/-- What the arguments ask for, where a match takes the time that it takes. -/
def Invocation.ofArguments (matchTime : RegexLiteral → String → Nat)
    (arguments : List String) : Except Halt Invocation := do
  let (scope, outer, inner) ← readCommand arguments
  let output := inner.output.orElse fun _ => outer.output
  match scope, inner.positional with
  | .select, path :: files =>
    let settings : Settings :=
      { strict := inner.has .strict
        regexLimit := inner.limit.map (· * 1000000)
        matchTime }
    return ⟨.select ⟨path, files.head?, inner.has .one, inner.has .compact, settings⟩, output⟩
  | .explain, [path] => return ⟨.explain path, output⟩
  | .check, [path] => return ⟨.check path, output⟩
  | _, _ => .error .usage

/-- The text of a node, on one line or on several. -/
def render (compact : Bool) (node : Json) : String :=
  if compact then node.compact else node.pretty

/-- The words for a path that is refused. -/
def invalidPath (text : String) (error : ParseError) : String :=
  "invalid path \x60" ++ text ++ "\x60: " ++ error.fault.message

/-- The words for an input that could not be read. -/
def SelectTask.unreadable (task : SelectTask) (fault : FileFault) : String :=
  "failed to read " ++ task.file.getD "stdin" ++ ": " ++ fault.message

/-- The document of a text. -/
def readDocument (text : String) : Except String Json :=
  match Json.read text with
  | some document => .ok document
  | none => .error "input is not valid JSON"

/-- The report of a selection from a document. -/
def SelectTask.report (task : SelectTask) (path : Path) (document : Json) :
    Except String String :=
  if task.one then do
    let node ← (path.selectOne task.settings document).mapError SelectError.message
    return render task.compact (node.getD .null)
  else do
    let nodes ← (path.selectAll task.settings document).mapError SelectError.message
    return String.intercalate "\n" (nodes.map (render task.compact))

/-- The report of a listing. -/
def explain (text : String) : Except String String :=
  match Path.parse text with
  | .ok path => .ok path.listing.pretty
  | .error error => .error (invalidPath text error)

/-- The report of a check: the number of steps, or the fault with a mark below its
place. -/
def check (text : String) : Except String String :=
  match Path.parse text with
  | .ok path => .ok ("ok: " ++ String.ofList (Nat.toDigits 10 path.steps.length) ++ " step(s)")
  | .error error =>
    .error (error.fault.message ++ "\n  " ++ text ++ "\n  " ++
      String.ofList (List.replicate error.position ' ') ++ "^ while parsing " ++
      error.fault.context.name)

end PathQuery.Command
