import DeviceKeys.FileSystem.Calls

/-! # Replacing a file as a whole

`FileSystem.replace` gives a path new contents in such a way that whoever reads it finds the old
contents or the new ones:

1. the path is resolved to the file it leads to, or stays as it is when it is not resolved;
2. missing directories are made;
3. a file of a drawn name that nothing has is created beside the target;
4. it is written, takes over the permission bits of the target, if there is one, and is brought to
   the medium (`fill`);
5. it is renamed to the target.

When a step fails, the new file is taken away again; directories made in step 2 stay.
-/

namespace DeviceKeys.FileSystem

open DeviceKeys.Path (Name)

/-- The file that is to be replaced. -/
def replaceTarget (fs : FileSystem) (p : Path) : Path := (fs.canonicalize? p).getD p

/-- The directory that holds a path, as far as its text tells. -/
def holderPath (p : Path) : Path :=
  match p.parent? with
  | some q => if q.bytes.isEmpty then Path.ofString "." else q
  | none => Path.ofString "."

/-! ## 1. The temporary file -/

/-- The permission bits of a temporary file. -/
def temporaryMode : Nat := 0o600

/-- The name that a temporary file gets by a draw. -/
def temporaryName (tag : Tag) : Name := [0x2E, 0x74, 0x6D, 0x70] ++ tag.bytes

/-- The count of names that are tried for a temporary file. -/
def temporaryTries : Nat := 65536

/-- A temporary file: where it stands, and the absolute path by which it is known. -/
structure Temporary where
  place : Location
  path : Path

/-- The directory of a temporary file, seen from the top. -/
def temporaryBase (fs : FileSystem) (dir : Path) : Except IoFault Path :=
  if dir.isAbsolute then .ok dir else fs.currentDir.map (·.join dir)

/-- Creates an empty temporary file under one of the names drawn from the `i`-th on, the first that
    nothing has. -/
def createDrawn (fs : FileSystem) (base : Path) :
    Nat → Nat → Except IoFault (Temporary × FileSystem)
  | 0, _ => .error (.atPath (.other "too many temporary files exist") base)
  | n + 1, i =>
    let p := base.join ⟨temporaryName (fs.chance.draw i)⟩
    match fs.createFile p temporaryMode with
    | .ok (l, fs) => .ok (⟨l, p⟩, fs)
    | .error .alreadyExists => createDrawn fs base n (i + 1)
    | .error e => .error (.atPath e p)

/-- Creates an empty temporary file in a directory. -/
def createTemporary (fs : FileSystem) (dir : Path) : Except IoFault (Temporary × FileSystem) := do
  fs.createDrawn (← fs.temporaryBase dir) temporaryTries 0

/-- Appends to the file at a location. -/
def append (fs : FileSystem) (l : Location) (data : Bytes) : FileSystem :=
  match fs.get? l with
  | some (.file mode old) => fs.put l (.file mode (old ++ data))
  | _ => fs

/-- Sets the permission bits of the file at a location, if they are given. -/
def setBits (fs : FileSystem) (l : Location) (bits : Option Nat) : FileSystem :=
  match bits, fs.get? l with
  | some mode, some (.file _ data) => fs.put l (.file mode data)
  | _, _ => fs

/-- Fails with the fault that is given, if one is. -/
def raise : Option IoFault → Except IoFault Unit
  | some e => .error e
  | none => .ok ()

/-- Writes a temporary file, gives it the permission bits of what the target names, if that is
    there, and brings it to the medium. -/
def fill (fs : FileSystem) (temporary : Temporary) (target : Path) (data : Bytes) :
    Except IoFault FileSystem := do
  raise (if data = [] then none else fs.chance.writeFault.map (.atPath · temporary.path))
  let fs := fs.append temporary.place data
  let bits := fs.mode? target
  raise (bits.bind fun _ => fs.chance.modeFault)
  let fs := fs.setBits temporary.place bits
  raise fs.chance.syncFault
  return fs

/-! ## 2. The replacement -/

/-- Gives a path new contents as a whole. -/
def replace (fs : FileSystem) (p : Path) (data : Bytes) : Except IoFault Unit × FileSystem :=
  let target := fs.replaceTarget p
  match fs.makeDirs (holderPath target) with
  | (.error e, fs) => (.error e, fs)
  | (.ok (), fs) =>
    match fs.createTemporary (holderPath target) with
    | .error e => (.error e, fs)
    | .ok (temporary, fs) =>
      match (do (← fs.fill temporary target data).rename temporary.place target) with
      | .ok fs => (.ok (), fs)
      -- the file goes, whatever it holds by then
      | .error e => (.error e, fs.remove temporary.place)

end DeviceKeys.FileSystem
