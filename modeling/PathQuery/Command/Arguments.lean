import PathQuery.Power

/-!
# Arguments

The arguments of the command are options and positional arguments.  Some options
belong to the command and may also stand behind its subcommand; the others
belong to one subcommand.  An option is given at most once, the one that is
counted aside.
-/

namespace PathQuery.Command

/-- The places where arguments stand: before a subcommand or behind one. -/
inductive Scope
  | root
  | select
  | explain
  | check
deriving DecidableEq

/-- The options. -/
inductive Flag
  | verbose
  | output
  | one
  | compact
  | strict
  | limit
  | version
  | help
deriving DecidableEq

namespace Flag

/-- The long name of an option. -/
def long : Flag → String
  | verbose => "verbose"
  | output => "output"
  | one => "one"
  | compact => "compact"
  | strict => "error-when-no-match"
  | limit => "regex-timeout-ms"
  | version => "version"
  | help => "help"

/-- The letter of an option, if it has one. -/
def letter? : Flag → Option Char
  | verbose => some 'v'
  | output => some 'o'
  | compact => some 'c'
  | strict => some 'e'
  | version => some 'V'
  | help => some 'h'
  | one | limit => none

/-- If an option is followed by a value. -/
def takesValue : Flag → Bool
  | output | limit => true
  | _ => false

end Flag

/-- The options of a scope. -/
def Scope.flags : Scope → List Flag
  | .root => [.verbose, .output, .version, .help]
  | .select => [.verbose, .output, .one, .compact, .strict, .limit, .help]
  | .explain | .check => [.verbose, .output, .help]

/-- The number of positional arguments that a scope has room for. -/
def Scope.room : Scope → Nat
  | .root => 0
  | .select => 2
  | .explain | .check => 1

/-- The subcommands by name. -/
def Scope.ofName? : String → Option Scope
  | "select" => some .select
  | "explain" => some .explain
  | "check" => some .check
  | _ => none

/-- Why the arguments lead to no task. -/
inductive Halt
  | usage
  | version
  | help
deriving DecidableEq

/-- The arguments of one scope. -/
structure Given where
  seen : List Flag := []
  output : Option String := none
  limit : Option Nat := none
  positional : List String := []

/-- If an option was given. -/
def Given.has (given : Given) (flag : Flag) : Bool :=
  given.seen.contains flag

/-- A number of at most 64 bits: digits, perhaps after a plus sign. -/
def count? (text : List Char) : Option Nat :=
  let digits := match text with
    | '+' :: rest => rest
    | _ => text
  let value := digits.foldl (fun n c => n * 10 + (c.toNat - '0'.toNat)) 0
  if !digits.isEmpty && digits.all Char.isDigit && value < 2 ^ 64 then some value else none

/-- Takes an option, with its value if it has one. -/
def Given.take (given : Given) (flag : Flag) (value : String) : Except Halt Given :=
  if flag ≠ .verbose ∧ given.has flag then .error .usage
  else
    let given := { given with seen := flag :: given.seen }
    match flag with
    | .version => .error .version
    | .help => .error .help
    | .output => if value.isEmpty then .error .usage else .ok { given with output := some value }
    | .limit =>
      match count? value.toList with
      | some limit => .ok { given with limit := some limit }
      | none => .error .usage
    | _ => .ok given

/-- Takes a positional argument: a path, which may be empty, or the name of a
file, which may not. -/
def Given.takePositional (scope : Scope) (given : Given) (argument : String) :
    Except Halt Given :=
  if given.positional.length = scope.room then .error .usage
  else if !given.positional.isEmpty && argument.isEmpty then .error .usage
  else .ok { given with positional := given.positional ++ [argument] }

/-- If an argument is an option or ends the options, rather than a value. -/
def looksLikeOption : List Char → Bool
  | '-' :: _ :: _ => true
  | _ => false

/-- What the next argument is to be: anything, or the value of an option. -/
inductive Expect
  | argument
  | value (flag : Flag)

/-- Takes the letters of an argument behind its hyphen; the value of an option is
what is left of the argument, without an equals sign in front, or the next
argument. -/
def takeLetters (scope : Scope) (given : Given) : List Char → Except Halt (Given × Expect)
  | [] => .ok (given, .argument)
  | c :: rest =>
    match scope.flags.find? fun flag => flag.letter? == some c with
    | none => .error .usage
    | some flag =>
      if flag.takesValue then
        match rest with
        | [] => .ok (given, .value flag)
        | '=' :: value => do return (← given.take flag (String.ofList value), .argument)
        | value => do return (← given.take flag (String.ofList value), .argument)
      else do takeLetters scope (← given.take flag "") rest

/-- Takes a long option behind its hyphens. -/
def takeLong (scope : Scope) (given : Given) (text : List Char) :
    Except Halt (Given × Expect) :=
  let name := String.ofList (text.takeWhile (· != '='))
  match scope.flags.find? (·.long == name), text.dropWhile (· != '=') with
  | none, _ => .error .usage
  | some flag, '=' :: value =>
    if flag.takesValue then do
      return (← given.take flag (String.ofList value), .argument)
    else .error .usage
  | some flag, _ =>
    if flag.takesValue then .ok (given, .value flag)
    else do return (← given.take flag "", .argument)

/-- Reads the arguments of a scope up to the end, or up to the subcommand; the
answer holds what follows the name of the subcommand. -/
def readScope (scope : Scope) :
    Given → Expect → List String → Except Halt (Given × Option (String × List String))
  | given, .argument, [] => .ok (given, none)
  | _, .value _, [] => .error .usage
  | given, .value flag, argument :: rest =>
    if looksLikeOption argument.toList then .error .usage
    else do readScope scope (← given.take flag argument) .argument rest
  | given, .argument, argument :: rest =>
    match argument.toList with
    | ['-', '-'] => do return (← rest.foldlM (Given.takePositional scope) given, none)
    | '-' :: '-' :: text => do
      let (given, expect) ← takeLong scope given text
      readScope scope given expect rest
    | '-' :: c :: text => do
      let (given, expect) ← takeLetters scope given (c :: text)
      readScope scope given expect rest
    | _ =>
      if scope = .root then .ok (given, some (argument, rest))
      else do readScope scope (← given.takePositional scope argument) .argument rest

/-- What a request for help that names a subcommand comes to. -/
def haltForHelp : List String → Halt
  | [] | ["help"] => .help
  | [name] => if (Scope.ofName? name).isSome then .help else .usage
  | _ => .usage

/-- Reads a subcommand: the options before it and what stands behind it. -/
def readCommand (arguments : List String) : Except Halt (Scope × Given × Given) := do
  match ← readScope .root {} .argument arguments with
  | (outer, some (name, rest)) =>
    match Scope.ofName? name with
    | some scope =>
      let (inner, _) ← readScope scope {} .argument rest
      return (scope, outer, inner)
    | none => .error (if name = "help" then haltForHelp rest else .usage)
  | (_, none) => .error .usage

end PathQuery.Command
