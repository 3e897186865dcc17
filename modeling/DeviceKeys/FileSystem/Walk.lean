import DeviceKeys.FileSystem.Basic

/-! # Walking a path

`FileSystem.locate` follows a path to what it names.

* Every component but the last must lead to a directory, directly or through symbolic links. The
  steps of a link's target take the place of the link.
* At most 40 links are followed on one walk (`linkLimit`).
* The last component may be missing from the directory that would hold it (`Target.missing`).
* A link in the last place is followed or not, as the caller asks; a slash after it always does.
* From a working directory that was taken away, no step is taken.
-/

namespace DeviceKeys

open DeviceKeys.Path (Step Name)

/-- Where a walk ends: at something, or in a directory that lacks the last name. -/
inductive Target where
  | found (l : Location)
  | missing (dir : Location) (name : Name)
  deriving DecidableEq

namespace FileSystem

/-- The count of links followed on one walk. -/
def linkLimit : Nat := 40

/-- A path of this length is refused. -/
def pathLimit : Nat := 4096

/-- Where the walk of a path starts, for a process or a link in the directory `base`. -/
def startOf (base : Location) (p : Path) : Location := if p.isAbsolute then [] else base

/-- The fault of a step from a location where no directory stands. -/
def noDirectory (fs : FileSystem) (l : Location) : IoFault :=
  if (fs.get? l).isSome then .notDirectory else .noEntry

/-- Takes the steps of a walk. What happens at a link that is followed is left to `onLink`, which is
    given the directory of the link, its target and the steps after it. -/
def walkSteps (fs : FileSystem) (onLink : Location → Path → List Step → Except IoFault Target)
    (follow : Bool) : Location → List Step → Except IoFault Target
  | l, [] => .ok (.found l)
  | l, step :: rest =>
    if fs.isDirAt l then
      match step with
      | .here => walkSteps fs onLink follow l rest
      | .up => walkSteps fs onLink follow l.tail rest
      | .down name =>
        if nameLimit < name.length then .error .nameTooLong
        else
          match fs.get? (name :: l) with
          | none => if rest.isEmpty then .ok (.missing l name) else .error .noEntry
          | some (.link target) =>
            if rest.isEmpty && !follow then .ok (.found (name :: l)) else onLink l target rest
          | some _ => walkSteps fs onLink follow (name :: l) rest
    else .error (fs.noDirectory l)

/-- Walks with at most the given count of links. -/
def walk (fs : FileSystem) (follow : Bool) : Nat → Location → List Step → Except IoFault Target
  | 0 => walkSteps fs (fun _ _ _ => .error .tooManyLinks) follow
  | n + 1 =>
    walkSteps fs
      (fun l target rest => walk fs follow n (startOf l target) (target.steps ++ rest)) follow

/-- Refuses what is no path: bytes with a zero among them, or no bytes. -/
def checkBytes (p : Path) : Except IoFault Unit :=
  if p.bytes.contains 0 then .error .nulInPath
  else if p.bytes.isEmpty then .error .noEntry
  else .ok ()

/-- Refuses a path that the system takes for none. -/
def checkPath (p : Path) : Except IoFault Unit := do
  checkBytes p
  if pathLimit ≤ p.bytes.length then .error .nameTooLong else .ok ()

/-- What a path names. -/
def locate (fs : FileSystem) (follow : Bool) (p : Path) : Except IoFault Target := do
  checkPath p
  fs.walk follow linkLimit (startOf fs.cwd p) p.steps

/-- What a path names, links followed, if that is there. -/
def find (fs : FileSystem) (p : Path) : Except IoFault Location := do
  match ← fs.locate true p with
  | .found l => .ok l
  | .missing _ _ => .error .noEntry

/-- The directory in which the last component of a path stands, and that component; none when the
    path has no component. Links on the way are followed, the last component is not looked at. -/
def findHolder (fs : FileSystem) (p : Path) : Except IoFault (Location × Option Step) := do
  checkPath p
  match ← fs.walk true linkLimit (startOf fs.cwd p) p.components.dropLast with
  | .found l => if fs.isDirAt l then .ok (l, p.components.getLast?) else .error (fs.noDirectory l)
  | .missing _ _ => .error .noEntry

end FileSystem

end DeviceKeys
