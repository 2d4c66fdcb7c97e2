import PathQuery.Command.System

/-!
# Outcomes

The command runs on a host and changes a world of files and standard streams.  It
ends with a status, texts on its two streams and the files as they are afterwards.
-/

namespace PathQuery.Command

/-- What the command may change: its files, and what the two streams have received. -/
structure World where
  files : Directory
  stdout : String
  stderr : String

namespace World

/-- A world before the command has written anything. -/
def fresh (files : Directory) : World :=
  ⟨files, "", ""⟩

/-- A stream receives a text. -/
def receive (world : World) (text : String) : Stream → World
  | .output => { world with stdout := world.stdout ++ text }
  | .errors => { world with stderr := world.stderr ++ text }

end World

/-- What the command cannot change: what standard input holds, what there is outside of
its files, which files the system refuses to read or to write, where a stream breaks off
within a text and with which fault, and how long a match takes.  The stream keeps that
many characters of the text then. -/
structure Host where
  stdin : Except FileFault String
  outside : String → Entry
  refusal : Directory.Purpose → String → Option FileFault
  tear : Stream → String → Option (Nat × FileFault)
  matchTime : RegexLiteral → String → Nat

namespace Host

/-- A host that has what every system has, where nothing is refused and no stream breaks
off, and a match takes a nanosecond. -/
def common (stdin : String) : Host where
  stdin := .ok stdin
  outside := commonPlaces stdin
  refusal _ _ := none
  tear _ _ := none
  matchTime _ _ := 1

variable (host : Host)

/-- What a stream keeps of a text. -/
def kept (stream : Stream) (text : String) : String :=
  match host.tear stream text with
  | none => text
  | some (length, _) => String.ofList (text.toList.take length)

/-- What the system answers to a text for a stream. -/
def sent (stream : Stream) (text : String) : Except FileFault Unit :=
  match host.tear stream text with
  | none => .ok ()
  | some (_, fault) => .error fault

/-- The file that a path leads to, unless the system refuses it. -/
def locate (files : Directory) (purpose : Directory.Purpose) (path : String) :
    Except FileFault Directory.Target := do
  let target ← files.locate host.outside purpose path
  match host.refusal purpose target.name with
  | some fault => .error fault
  | none => return target

/-- The content of a file. -/
def read (files : Directory) (path : String) : Except FileFault String := do
  files.give (← host.locate files .reading path)

/-- Writes a file whole, or not at all. -/
def write (world : World) (path content : String) : Except FileFault World := do
  let target ← host.locate world.files .writing path
  match target.device with
  | none => return { world with files := world.files.set target.name content }
  | some device =>
    match ← device.takes with
    | none => return world
    | some stream => return world.receive content stream

/-- Writes a text to a stream, which may break off. -/
def send (stream : Stream) (text : String) : StateM World (Except FileFault Unit) := do
  modify fun world => world.receive (host.kept stream text) stream
  return host.sent stream text

/-- The system of a host. -/
def system : System (StateM World) where
  readFile path := return host.read (← get).files path
  readInput := return host.stdin
  writeFile path content := do
    match host.write (← get) path content with
    | .ok world =>
      set world
      return .ok ()
    | .error fault => return .error fault
  print := host.send .output
  complain := host.send .errors
  matchTime := host.matchTime

end Host

/-- What a run of the command leaves behind. -/
structure Outcome where
  status : Nat
  stdout : String
  stderr : String
  files : Directory

/-- Runs the command with some arguments in a directory. -/
def run (arguments : List String) (files : Directory) (stdin : String) : Outcome :=
  let (status, world) := (perform (Host.common stdin).system arguments).run (.fresh files)
  ⟨status, world.stdout, world.stderr, world.files⟩

end PathQuery.Command
