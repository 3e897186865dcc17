import DeviceKeys.FileSystem.Walk

/-! # What a process asks of the file system

Reading and asking: `read`, `readText`, `exists?`, `isDir`, `mode?`, `currentDir`, `canonicalize?`.
Changing: `makeDir`, `makeDirs` (with all missing parents), `writeFile`, `makeLink`, `createFile`
and `rename`.

A change gives the file system after it also when it fails, since `makeDirs` may have made some
directories before the one that it cannot make.
-/

namespace DeviceKeys.FileSystem

open DeviceKeys.Path (Step Name)

/-! ## 1. Reading -/

/-- The contents of the file that a path names. -/
def read (fs : FileSystem) (p : Path) : Except IoFault Bytes := do
  match fs.get? (← fs.find p) with
  | some (.file _ data) => .ok data
  | _ => .error .isDirectory

/-- The text of the file that a path names. -/
def readText (fs : FileSystem) (p : Path) : Except IoFault (List Char) := do
  match Utf8.decode (← fs.read p) with
  | .ok cs => .ok cs
  | .error _ => .error .notUtf8

/-- The entry that a path names, links followed. -/
def stat? (fs : FileSystem) (p : Path) : Option Entry :=
  match fs.find p with
  | .ok l => fs.get? l
  | .error _ => none

/-- The path names something, links followed. -/
def exists? (fs : FileSystem) (p : Path) : Bool := (fs.stat? p).isSome

/-- The path names a directory, links followed. -/
def isDir (fs : FileSystem) (p : Path) : Bool := (fs.stat? p).any Entry.isDir

/-- The permission bits of an entry; a link has none of its own. -/
def modeOf : Entry → Option Nat
  | .file mode _ => some mode
  | .dir mode => some mode
  | .link _ => none

/-- The permission bits of what a path names, links followed. -/
def mode? (fs : FileSystem) (p : Path) : Option Nat := (fs.stat? p).bind modeOf

/-- The absolute path without links that leads to a location. -/
def pathTo (l : Location) : Path := Path.ofNames l.reverse

/-- The absolute path of the working directory, unless that has been taken away. -/
def currentDir (fs : FileSystem) : Except IoFault Path :=
  if fs.isDirAt fs.cwd then .ok (pathTo fs.cwd) else .error .noEntry

/-! ## 2. The path without links -/

/-- Before the steps take a name, they ask for a directory. -/
def asksDirectory : List Step → Bool
  | [] => false
  | .here :: rest => rest.isEmpty || asksDirectory rest
  | .up :: _ => true
  | .down _ :: _ => false

/-- The path by which the system is asked about an entry that is no link, where the steps are still
    to be taken from it. A slash at its end asks for a directory. -/
def askedAt (l : Location) (rest : List Step) : Path :=
  if asksDirectory rest then ⟨(pathTo l).bytes ++ [Path.slash]⟩ else pathTo l

/-- The paths by which the system is asked about each entry that the steps of a walk come to. What
    is asked after a link is left to `onLink`. -/
def askedSteps (fs : FileSystem) (onLink : Location → Path → List Step → List Path) :
    Location → List Step → List Path
  | _, [] => []
  | l, .here :: rest => askedSteps fs onLink l rest
  | l, .up :: rest => askedSteps fs onLink l.tail rest
  | l, .down name :: rest =>
    match fs.get? (name :: l) with
    | some (.link target) => pathTo (name :: l) :: onLink l target rest
    | some _ => askedAt (name :: l) rest :: askedSteps fs onLink (name :: l) rest
    | none => []

/-- The paths by which the system is asked on a walk with at most the given count of links. -/
def askedOn (fs : FileSystem) : Nat → Location → List Step → List Path
  | 0 => askedSteps fs fun _ _ _ => []
  | n + 1 =>
    askedSteps fs fun l target rest => askedOn fs n (startOf l target) (target.steps ++ rest)

/-- The paths by which the system is asked to resolve a path. -/
def asked (fs : FileSystem) (p : Path) : List Path :=
  fs.askedOn linkLimit (startOf fs.cwd p) p.steps

/-- None of the paths asked for to resolve a path is too long. -/
def Resolvable (fs : FileSystem) (p : Path) : Prop :=
  ∀ q ∈ fs.asked p, q.bytes.length < pathLimit

instance (fs : FileSystem) (p : Path) : Decidable (fs.Resolvable p) :=
  inferInstanceAs (Decidable (∀ q ∈ fs.asked p, q.bytes.length < pathLimit))

/-- The absolute path without links that leads to what a path names. The path itself may be of any
    length: it is followed name by name, and for each name the system is asked by the absolute path
    without links that has been found so far. Why there is none is told to nobody. -/
def canonicalize? (fs : FileSystem) (p : Path) : Option Path :=
  match checkBytes p, fs.walk true linkLimit (startOf fs.cwd p) p.steps with
  | .ok (), .ok (.found l) => if fs.Resolvable p then some (pathTo l) else none
  | _, _ => none

/-! ## 3. Making directories -/

/-- The permission bits of a new directory. -/
def newDirMode : Nat := 0o755

/-- The location of the last name of a path, where something new is to stand. -/
def vacant (fs : FileSystem) (p : Path) : Except IoFault Location := do
  match ← fs.findHolder p with
  | (l, some (.down name)) =>
    if nameLimit < name.length then .error .nameTooLong
    else if (fs.get? (name :: l)).isSome then .error .alreadyExists
    else .ok (name :: l)
  | _ => .error .alreadyExists

/-- Makes a directory in an existing one. -/
def makeDir (fs : FileSystem) (p : Path) : Except IoFault FileSystem := do
  return fs.put (← fs.vacant p) (.dir newDirMode)

/-- Makes the innermost of some directories that can be made, given from the innermost out. Gives
    those that are still to be made, from the outermost in. -/
def climb : List Path → List Path → FileSystem → Except IoFault (List Path) × FileSystem
  | [], todo, fs => (.ok todo, fs)
  | p :: ps, todo, fs =>
    if p.bytes.isEmpty || p.parent?.isNone then (.ok todo, fs)
    else
      match fs.makeDir p with
      | .ok fs' => (.ok todo, fs')
      | .error .noEntry => climb ps (p :: todo) fs
      | .error e => if fs.isDir p then (.ok todo, fs) else (.error e, fs)

/-- Makes directories one after the other. -/
def descend : List Path → FileSystem → Except IoFault Unit × FileSystem
  | [], fs => (.ok (), fs)
  | p :: ps, fs =>
    match fs.makeDir p with
    | .ok fs' => descend ps fs'
    | .error e => if fs.isDir p then descend ps fs else (.error e, fs)

/-- Makes a directory and its missing parents. -/
def makeDirs (fs : FileSystem) (p : Path) : Except IoFault Unit × FileSystem :=
  match climb p.ancestors [] fs with
  | (.ok todo, fs') => descend todo fs'
  | (.error e, fs') => (.error e, fs')

/-! ## 4. Changing files -/

/-- The permission bits of a file that a plain write creates. -/
def newFileMode : Nat := 0o644

/-- Writes a file in place, or creates it; links are followed. -/
def writeFile (fs : FileSystem) (p : Path) (data : Bytes) : Except IoFault FileSystem := do
  match ← fs.locate true p with
  | .found l =>
    match fs.get? l with
    | some (.file mode _) => .ok (fs.put l (.file mode data))
    | _ => .error .isDirectory
  | .missing dir name => .ok (fs.put (name :: dir) (.file newFileMode data))

/-- Sets the permission bits of the file that a path names. -/
def setMode (fs : FileSystem) (p : Path) (mode : Nat) : Except IoFault FileSystem := do
  let l ← fs.find p
  match fs.get? l with
  | some (.file _ data) => .ok (fs.put l (.file mode data))
  | some (.dir _) => .ok (fs.put l (.dir mode))
  | _ => .ok fs

/-- Makes a symbolic link. -/
def makeLink (fs : FileSystem) (p target : Path) : Except IoFault FileSystem := do
  return fs.put (← fs.vacant p) (.link target)

/-- Creates an empty file where nothing stands, and tells its location. -/
def createFile (fs : FileSystem) (p : Path) (mode : Nat) :
    Except IoFault (Location × FileSystem) := do
  let l ← fs.vacant p
  if p.endsInSlash then .error .isDirectory else .ok (l, fs.put l (.file mode []))

/-- Moves the file at a location to a path, where it takes the place of a file or a link. -/
def rename (fs : FileSystem) (source : Location) (p : Path) : Except IoFault FileSystem :=
  match fs.findHolder p with
  | .error .nulInPath => .error .invalidArgument
  | .error e => .error e
  | .ok (l, some (.down name)) =>
    if nameLimit < name.length then .error .nameTooLong
    else if p.endsInSlash then .error .notDirectory
    else if fs.isDirAt (name :: l) then .error .isDirectory
    else
      match fs.get? source with
      | some e => .ok ((fs.remove source).put (name :: l) e)
      | none => .error .noEntry
  | .ok _ => .error .busy

end DeviceKeys.FileSystem
