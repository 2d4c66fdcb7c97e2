import PathQuery.Command.Task

/-!
# What the command asks of the system

The command is a program over the few things that it asks of the system, each of
which may fail.  It reads what a task needs, makes the whole report, and only then
hands it over to standard output or to a file; words for a failure go to standard
error.
-/

namespace PathQuery.Command

/-- What a system does for the command, and how long a match takes on it, in
nanoseconds. -/
structure System (m : Type → Type) where
  readFile : String → m (Except FileFault String)
  readInput : m (Except FileFault String)
  writeFile : String → String → m (Except FileFault Unit)
  print : String → m (Except FileFault Unit)
  complain : String → m (Except FileFault Unit)
  matchTime : RegexLiteral → String → Nat

/-- The words for a file that could not be written. -/
def writeFailure (path : String) (fault : FileFault) : String :=
  "failed to write " ++ path ++ ": " ++ fault.message

/-- The line for a failure. -/
def complaint (message : String) : String :=
  "Error: " ++ message ++ "\n"

/-- The text for a version request. -/
def versionText : String :=
  "quarry 0.1.0\n"

/-- The status of a command that fails.  It is aborted where its failure cannot be told. -/
def failureStatus : Except FileFault Unit → Nat
  | .ok () => 1
  | .error _ => 134

theorem failureStatus_ne_zero (told : Except FileFault Unit) : failureStatus told ≠ 0 := by
  cases told with
  | ok done => exact Nat.one_ne_zero
  | error fault => exact Nat.succ_ne_zero 133

section Program

variable {m : Type → Type} [Monad m] (system : System m)

/-- Reads the text of a selection, from its file or from standard input. -/
def SelectTask.readText (task : SelectTask) : ExceptT String m String := do
  let input ← match task.file with
    | some path => system.readFile path
    | none => system.readInput
  MonadExcept.ofExcept (input.mapError task.unreadable)

/-- Makes the report of a selection. -/
def SelectTask.prepare (task : SelectTask) : ExceptT String m String := do
  let path ← MonadExcept.ofExcept ((Path.parse task.path).mapError (invalidPath task.path))
  let text ← task.readText system
  let document ← MonadExcept.ofExcept (readDocument text)
  MonadExcept.ofExcept (task.report path document)

/-- Makes the report of a task. -/
def Task.prepare : Task → ExceptT String m String
  | .select task => task.prepare system
  | .explain text => MonadExcept.ofExcept (Command.explain text)
  | .check text => MonadExcept.ofExcept (Command.check text)

/-- Hands a report over to a file or to standard output. -/
def deliver (output : Option String) (report : String) : ExceptT String m Unit :=
  match output with
  | none => do
    let printed ← system.print (report ++ "\n")
    MonadExcept.ofExcept (printed.mapError FileFault.message)
  | some path => do
    let written ← system.writeFile path (report ++ "\n")
    MonadExcept.ofExcept (written.mapError (writeFailure path))

/-- Performs a task and answers the status. -/
def Invocation.perform (invocation : Invocation) : m Nat := do
  let done ← (invocation.task.prepare system >>= deliver system invocation.output).run
  match done with
  | .ok () => return 0
  | .error message => return failureStatus (← system.complain (complaint message))

/-- Answers arguments that lead to no task.  A misuse is told by the status alone, and
so is a request for help, whose text is left out. -/
def Halt.perform : Halt → m Nat
  | .usage => return 2
  | .version => do
    let _ ← system.print versionText
    return 0
  | .help => return 0

/-- Performs the command with some arguments. -/
def perform (arguments : List String) : m Nat :=
  match Invocation.ofArguments system.matchTime arguments with
  | .ok invocation => invocation.perform system
  | .error halt => halt.perform system

end Program

end PathQuery.Command
