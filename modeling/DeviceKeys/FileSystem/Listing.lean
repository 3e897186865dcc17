import DeviceKeys.FileSystem.Calls

/-! # What a directory holds

`FileSystem.names` lists the names of what stands in a directory, in the order of their bytes, and
`FileSystem.below` all that stands below it.
-/

namespace DeviceKeys.FileSystem

open DeviceKeys.Path (Name)

/-- The names come in the order of their bytes. -/
def namesInOrder (a b : Name) : Bool := !decide (b < a)

/-- The names of what stands in a directory. -/
def names (fs : FileSystem) (l : Location) : List Name :=
  (fs.entries.filterMap fun e =>
    match e.1 with
    | name :: dir => if dir = l then some name else none
    | [] => none).mergeSort namesInOrder

/-- The directory holds nothing. -/
def isEmptyDir (fs : FileSystem) (l : Location) : Bool := (fs.names l).isEmpty

/-- The entry that a path names, a link in the last place not followed. -/
def linkStat? (fs : FileSystem) (p : Path) : Option Entry :=
  match fs.locate false p with
  | .ok (.found l) => fs.get? l
  | _ => none

/-- Moves everything at or below a location to another, which nothing has. -/
def moveTree (fs : FileSystem) (source target : Location) : FileSystem :=
  let moved := fs.entries.filter fun e => isWithin e.1 source
  let shorter (a b : Location × Entry) : Bool := a.1.length ≤ b.1.length
  let shift (l : Location) : Location := l.take (l.length - source.length) ++ target
  (moved.mergeSort shorter).foldl (fun fs e => fs.put (shift e.1) e.2)
    (if fs.isDirAt source then fs.removeTree source else fs.remove source)

end DeviceKeys.FileSystem
