import DeviceKeys.FileSystem.Calls

/-! # What changed between two file systems

`FileSystem.changes` lists what stands in a file system and did not stand so in an earlier one, and
what is gone from it, in the order of the paths. Permission bits count for nothing here.
-/

namespace DeviceKeys

/-- A difference at a location: an entry that is new or other than before, or one that is gone. -/
inductive Change where
  | set (l : Location) (e : Entry)
  | gone (l : Location)
  deriving DecidableEq

/-- The location of a change. -/
def Change.location : Change → Location
  | .set l _ => l
  | .gone l => l

/-- The two entries hold the same. -/
def Entry.sameContents : Entry → Entry → Bool
  | .file _ data, .file _ data' => data = data'
  | .dir _, .dir _ => true
  | .link target, .link target' => target = target'
  | _, _ => false

namespace FileSystem

/-- The bytes of a path come no later than those of another. -/
def pathsInOrder (a b : Location) : Bool := !decide ((pathTo b).bytes < (pathTo a).bytes)

/-- What changed from one file system to another. -/
def changes (before after : FileSystem) : List Change :=
  let set := after.entries.filterMap fun (l, e) =>
    if (before.get? l).any e.sameContents then none else some (.set l e)
  let gone := before.entries.filterMap fun (l, _) =>
    if (after.get? l).isNone then some (Change.gone l) else none
  (set ++ gone).mergeSort fun a b => pathsInOrder a.location b.location

end FileSystem

end DeviceKeys
