import PathQuery.Command.Outcome

/-!
# The command

Performs the command on the system that it runs on.
-/

namespace PathQuery.Command

/-- The number of an error of the system, which may come negated. -/
def errorNumber (code : UInt32) : UInt32 :=
  if code < 0x80000000 then code else 0 - code

/-- The fault that an error of the system stands for. -/
def FileFault.ofError (error : IO.Error) : FileFault :=
  match error with
  | .noFileOrDirectory .. => .notFound
  | .inappropriateType _ code _ =>
    if errorNumber code = 20 then .notDirectory else .isDirectory
  | .invalidArgument _ code _ =>
    if errorNumber code = 36 then .nameTooLong else .other error.toString
  | .resourceExhausted _ code _ =>
    if errorNumber code = 28 then .noSpace else .other error.toString
  | _ => .other error.toString

/-- The answer of an action, or the fault that it ends with. -/
def faultOf {α : Type} (action : IO α) : IO (Except FileFault α) := do
  try return .ok (← action)
  catch error => return .error (.ofError error)

/-- Writes a text to a stream of the process. -/
def sendTo (stream : IO IO.FS.Stream) (text : String) : IO (Except FileFault Unit) :=
  faultOf do
    let target ← stream
    target.putStr text
    target.flush

/-- The system that the command runs on.  No clock is read: every match is taken to last a
nanosecond. -/
def hostSystem : System IO where
  readFile path := faultOf (IO.FS.readFile path)
  readInput := faultOf do (← IO.getStdin).readToEnd
  writeFile path content := faultOf (IO.FS.writeFile path content)
  print := sendTo IO.getStdout
  complain := sendTo IO.getStderr
  matchTime _ _ := 1

end PathQuery.Command

open PathQuery.Command

/-- Performs one run of the command. -/
def main (arguments : List String) : IO UInt32 := do
  return (← perform hostSystem arguments).toUInt32
