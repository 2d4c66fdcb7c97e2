/-!
# Directories

A directory holds files by the names that lead to them.  A path is followed name
by name: every name but the last has to be that of a directory, a single dot
stays where it is, and two dots go back.  What is found at other places is not
known to a directory: there may be directories and devices, and every system has
a few of them below its root.
-/

namespace PathQuery.Command

/-- Why a file could not be read or written. -/
inductive FileFault
  | notFound
  | notDirectory
  | isDirectory
  | nameTooLong
  | noSpace
  | endless
  | other (text : String)
deriving DecidableEq

/-- The words for a fault of a file. -/
def FileFault.message : FileFault → String
  | notFound => "No such file or directory (os error 2)"
  | notDirectory => "Not a directory (os error 20)"
  | isDirectory => "Is a directory (os error 21)"
  | nameTooLong => "File name too long (os error 36)"
  | noSpace => "No space left on device (os error 28)"
  | endless => "the device never ends"
  | other text => text

/-! ## Places -/

/-- A place in the tree of directories: the names that lead to it, the last one
first, from the root or from the directory of the command. -/
structure Place where
  fromRoot : Bool
  names : List String

namespace Place

/-- The place one directory back, which for the root is the root itself. -/
def up (place : Place) : Place :=
  match place.names with
  | [] => if place.fromRoot then place else ⟨false, [".."]⟩
  | ".." :: _ => { place with names := ".." :: place.names }
  | _ :: names => { place with names := names }

/-- The place of a name below another. -/
def down (place : Place) (name : String) : Place :=
  { place with names := name :: place.names }

/-- The name of a place, which a file there goes by. -/
def text (place : Place) : String :=
  (if place.fromRoot then "/" else "") ++ String.intercalate "/" place.names.reverse

end Place

/-! ## What is found at a place -/

/-- The streams that a command writes to. -/
inductive Stream
  | output
  | errors
deriving DecidableEq

/-- A device gives a text to whoever reads it, and takes what is written to it: it may
refuse that, pass it on to a stream or lose it.  A device whose text never ends refuses
to be read. -/
structure Device where
  gives : Except FileFault String
  takes : Except FileFault (Option Stream)

/-- What is found at a place. -/
inductive Entry
  | nothing
  | file
  | device (device : Device)
  | directory

/-- The places below the root that are directories on every system. -/
def commonDirectories : List String :=
  ["/bin", "/dev", "/dev/fd", "/etc", "/home", "/lib", "/opt", "/proc", "/proc/self",
    "/proc/self/fd", "/root", "/run", "/sbin", "/sys", "/tmp", "/usr", "/var"]

/-- The devices that every system has, where standard input holds a text. -/
def commonDevices (stdin : String) : List (String × Device) :=
  let input : Device := ⟨.ok stdin, .ok none⟩
  let output : Device := ⟨.error .endless, .ok (some .output)⟩
  let errors : Device := ⟨.error .endless, .ok (some .errors)⟩
  [("/dev/null", ⟨.ok "", .ok none⟩),
    ("/dev/full", ⟨.error .endless, .error .noSpace⟩),
    ("/dev/zero", ⟨.error .endless, .ok none⟩),
    ("/dev/stdin", input), ("/dev/fd/0", input), ("/proc/self/fd/0", input),
    ("/dev/stdout", output), ("/dev/fd/1", output), ("/proc/self/fd/1", output),
    ("/dev/stderr", errors), ("/dev/fd/2", errors), ("/proc/self/fd/2", errors)]

/-- What every system has outside of the files of a directory, by its name. -/
def commonPlaces (stdin : String) (name : String) : Entry :=
  match (commonDevices stdin).lookup name with
  | some device => .device device
  | none => if commonDirectories.contains name then .directory else .nothing

/-- The files of a directory by the names that lead to them. -/
abbrev Directory := List (String × String)

namespace Directory

/-- What a path is followed for. -/
inductive Purpose
  | reading
  | writing
deriving DecidableEq

/-- The file that a path leads to, by its name, or the device that is there instead. -/
structure Target where
  name : String
  device : Option Device

section Following

variable (outside : String → Entry) (files : Directory)

/-- What is found at a place: a file of the directory, a directory around its files, or
what is there otherwise. -/
def entry (place : Place) : Entry :=
  if (files.lookup place.text).isSome then .file
  else if place.names.all (· == "..") ||
      files.any fun file => (place.text ++ "/").toList.isPrefixOf file.1.toList then
    .directory
  else outside place.text

/-! ## Following a path -/

/-- The greatest number of bytes of a name. -/
def nameLimit : Nat := 255

/-- The greatest number of bytes of a path. -/
def pathLimit : Nat := 4095

/-- The parts of a text between slashes. -/
def parts : List Char → List (List Char)
  | [] => [[]]
  | c :: rest =>
    match c, parts rest with
    | '/', others => [] :: others
    | c, part :: others => (c :: part) :: others
    | c, [] => [[c]]

/-- The names that a path leads through, without those that are empty. -/
def namesOf (path : String) : List String :=
  ((parts path.toList).filter (!·.isEmpty)).map String.ofList

/-- The directory that a name leads to from another. -/
def enter (place : Place) (name : String) : Except FileFault Place :=
  if name = "." then .ok place
  else if name = ".." then .ok place.up
  else if nameLimit < name.utf8ByteSize then .error .nameTooLong
  else
    match files.entry outside (place.down name) with
    | .directory => .ok (place.down name)
    | .file | .device _ => .error .notDirectory
    | .nothing => .error .notFound

/-- The file that the last name of a path leads to, where `closed` tells that a slash
follows.  Nothing is ever written to a name with a slash behind it. -/
def leave (purpose : Purpose) (closed : Bool) (place : Place) (name : String) :
    Except FileFault Target :=
  if name = "." ∨ name = ".." then .error .isDirectory
  else if closed ∧ purpose = .writing then .error .isDirectory
  else if nameLimit < name.utf8ByteSize then .error .nameTooLong
  else
    let target := (place.down name).text
    match files.entry outside (place.down name), purpose with
    | .directory, _ => .error .isDirectory
    | .file, _ => if closed then .error .notDirectory else .ok ⟨target, none⟩
    | .device device, _ => if closed then .error .notDirectory else .ok ⟨target, some device⟩
    | .nothing, .reading => .error .notFound
    | .nothing, .writing => .ok ⟨target, none⟩

/-- The file that some names lead to. -/
def follow (purpose : Purpose) (closed : Bool) (place : Place) :
    List String → Except FileFault Target
  | [] => .error .isDirectory
  | [name] => files.leave outside purpose closed place name
  | name :: rest => do follow purpose closed (← files.enter outside place name) rest

/-- The file that a path leads to, or why it leads to none. -/
def locate (purpose : Purpose) (path : String) : Except FileFault Target :=
  if pathLimit < path.utf8ByteSize then .error .nameTooLong
  else
    let start : Place := ⟨path.toList.head? == some '/', []⟩
    let closed := path.toList.getLast? == some '/'
    files.follow outside purpose closed start (namesOf path)

end Following

/-! ## Files -/

/-- The content of the file of a name. -/
def content (files : Directory) (name : String) : String :=
  (files.lookup name).getD ""

/-- What a file or a device gives to whoever reads it. -/
def give (files : Directory) (target : Target) : Except FileFault String :=
  match target.device with
  | none => .ok (files.content target.name)
  | some device => device.gives

/-- The content of a file, on a system that has no more than every system has. -/
def read (files : Directory) (path : String) : Except FileFault String := do
  files.give (← files.locate (commonPlaces "") .reading path)

/-- Sets the content of the file of a name. -/
def set (name content : String) : Directory → Directory
  | [] => [(name, content)]
  | file :: rest =>
    if file.1 = name then (name, content) :: rest else file :: set name content rest

/-- A file that was set has its new content. -/
theorem lookup_set (name content : String) (files : Directory) :
    List.lookup name (set name content files) = some content := by
  induction files with
  | nil => simp [set]
  | cons file rest ih =>
    obtain ⟨key, value⟩ := file
    by_cases h : key = name
    · simp [set, h]
    · have hkey : (name == key) = false := by simpa using fun e => h e.symm
      simp [set, h, List.lookup_cons, hkey, ih]

/-- All other files keep their content when one is set. -/
theorem lookup_set_of_ne {name other : String} (h : other ≠ name) (content : String)
    (files : Directory) :
    List.lookup other (set name content files) = List.lookup other files := by
  have hname : (other == name) = false := by simpa using h
  induction files with
  | nil => simp [set, List.lookup_cons, hname]
  | cons file rest ih =>
    obtain ⟨key, value⟩ := file
    by_cases hkey : key = name
    · simp [set, hkey, List.lookup_cons, hname]
    · simp [set, hkey, List.lookup_cons, ih]

end Directory

end PathQuery.Command
