import DeviceKeys.Shell.Machine

/-! # Looking for programs

A name of a program without a slash is looked for in the directories that `PATH` lists. A file that
is to be started is a program of the system, or starts with the line `#!` and the path of its
interpreter (`Search.programOf`). Programs of the system stand in `/bin` and `/usr/bin` and are known
by their names.
-/

namespace DeviceKeys.Shell

namespace Search

/-! ## 1. Directories -/

/-- The parts of a list between colons. -/
def parts : Chars → List Chars
  | [] => [[]]
  | c :: r =>
    if c = ':' then [] :: parts r
    else
      match parts r with
      | [] => [[c]]
      | p :: ps => (c :: p) :: ps

/-- The path of a name in a directory of a list; the empty one is the working directory. -/
def inDir (dir name : Chars) : Chars := if dir.isEmpty then name else dir ++ '/' :: name

/-- The list of directories that counts where there is no other. -/
def defaultList : String := "/bin:/usr/bin"

/-- The paths at which a name may stand. -/
def candidates (list name : Chars) : List Chars :=
  if name.contains '/' then [name] else (parts list).map fun dir => inDir dir name

/-- The entry is a file that may be started. -/
def isStartable : Entry → Bool
  | .file mode _ => mode &&& 0o111 ≠ 0
  | _ => false

/-- The first path among some at which something of a kind stands, or why there is none. -/
def firstFile (kind : Entry → Bool) (fs : FileSystem) (paths : List Chars) :
    Except IoFault Chars :=
  let rec go (e : IoFault) : List Chars → Except IoFault Chars
    | [] => .error e
    | path :: paths =>
      match fs.find (toPath path) with
      | .ok l => if (fs.get? l).any kind then .ok path else go .denied paths
      | .error .noEntry => go e paths
      | .error .notDirectory => go e paths
      | .error e' => go e' paths
  go .noEntry paths

/-! ## 2. Programs -/

/-- The directories in which the programs of the system stand. -/
def programDirs : List Path := [Path.ofString "/bin", Path.ofString "/usr/bin"]

/-- The name of the program of the system that stands at a location. -/
def programAt? (fs : FileSystem) (l : Location) : Option Chars :=
  match l with
  | [] => none
  | name :: dir =>
    let dirs := programDirs.filterMap fun p => (fs.find p).toOption
    if dirs.contains dir && fs.get? l = some (.file 0o755 []) then some (ofBytes name) else none

/-- A file starts with a line that names its interpreter. -/
def interpreterMark : Bytes := Utf8.ofString "#!"

/-- The bytes of a file in which its interpreter must be named. -/
def interpreterReach : Nat := 256

/-- The byte is a blank or a tab. -/
def isGap (b : UInt8) : Bool := b = 0x20 || b = 0x09

/-- Takes the blanks off both ends. -/
def stripGaps (s : Bytes) : Bytes :=
  ((s.dropWhile isGap).reverse.dropWhile isGap).reverse

/-- The interpreter that a file names, and the argument for it. -/
def interpreter? (data : Bytes) : Option (Path × List Chars) :=
  if interpreterMark.isPrefixOf data then
    let line := ((data.take interpreterReach).drop 2).takeWhile (· ≠ 0x0A)
    let line := stripGaps line
    let path := line.takeWhile (!isGap ·)
    let argument := stripGaps (line.drop path.length)
    if path.isEmpty then none
    else some (⟨path⟩, if argument.isEmpty then [] else [ofBytes argument])
  else none

/-- Interpreters may themselves be scripts, to this depth. -/
def interpreterLimit : Nat := 5

/-- A program of the system with the name by which it was started and its arguments. -/
structure Started where
  program : Chars
  name : Chars
  arguments : List Chars

/-- The program of the system that a file comes down to, started by a name with arguments. -/
def programOf (fs : FileSystem) : Nat → Path → Chars → List Chars → Except IoFault Started
  | 0, _, _, _ => .error .tooManyLinks
  | n + 1, path, name, args => do
    let l ← fs.find path
    match fs.get? l with
    | some (.file mode data) =>
      if mode &&& 0o111 = 0 then .error .denied
      else
        match programAt? fs l with
        | some program => .ok ⟨program, name, args⟩
        | none =>
          match interpreter? data with
          | some (interpreter, argument) =>
            programOf fs n interpreter (ofBytes interpreter.bytes)
              (argument ++ ofBytes path.bytes :: args)
          | none => .error .execFormat
    | _ => .error .denied

/-- The program of the system that stands for one of some paths, started by a name with arguments. A
    file that names no interpreter is a script of the shell. -/
def firstProgram (fs : FileSystem) (name : Chars) (args : List Chars) (paths : List Chars) :
    Except IoFault Started :=
  let rec go (e : IoFault) : List Chars → Except IoFault Started
    | [] => .error e
    | path :: paths =>
      match programOf fs interpreterLimit (toPath path) name args with
      | .ok found => .ok found
      | .error .execFormat => .ok ⟨"sh".toList, "/bin/sh".toList, path :: args⟩
      | .error .noEntry => go e paths
      | .error .notDirectory => go e paths
      | .error e' => go e' paths
  go .noEntry paths

end Search

namespace Act

/-- The status for a program that cannot be started. -/
def unstartedStatus (e : IoFault) : Nat :=
  match e with
  | .noEntry | .notDirectory | .tooManyLinks | .nameTooLong => 127
  | _ => 126

/-- The words for the reason why a program cannot be started. -/
def unstartedReason (e : IoFault) : Chars :=
  match e with
  | .noEntry | .notDirectory => "not found".toList
  | e => reason e

/-- The list of directories in which programs are looked for. -/
def searchList (p : Process) : Chars := valueOf p "PATH"

/-- Where a name of a command leads, remembered for later. -/
def whereIs (name : Chars) : Act (Except IoFault Chars) := do
  let p ← process
  if name.contains '/' then
    let fs ← fs
    return (fs.find (toPath name)).map fun _ => name
  else
    match p.hashed.lookup name with
    | some path => return .ok path
    | none =>
      match Search.firstFile Search.isStartable (← fs) (Search.candidates (searchList p) name) with
      | .ok path => do
        change fun p => { p with hashed := (name, path) :: p.hashed }
        return .ok path
      | .error e => return .error e

end Act

end DeviceKeys.Shell
