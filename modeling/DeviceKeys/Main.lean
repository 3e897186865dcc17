import DeviceKeys.FileSystem.Change
import DeviceKeys.Footprint
import DeviceKeys.Shell.Launch

/-! # The program

Brings the part of the file system that a run looks at into memory, lets `CommandLine.run` work on
it, and carries out what changed. Symbolic links are followed on the way in.
-/

namespace DeviceKeys.Program

/-- The text of a path for the system. -/
def pathText (l : Location) : String := (FileSystem.pathTo l).display

/-- What stands at a location of the system. -/
def entryAt (l : Location) : IO (Option Entry) := do
  try
    if ← (← IO.FS.realPath (pathText l)).isDir then
      return some (.dir FileSystem.newDirMode)
    let data ← IO.FS.readBinFile (pathText l)
    return some (.file 0o755 data.toList)
  catch _ => return none

/-- Brings what lies on a path into memory, from the top down. -/
def bring (fs : FileSystem) (p : Path) : IO FileSystem := do
  let mut fs := fs
  let mut l := FileSystem.startOf fs.cwd p
  for step in p.components do
    match step with
    | .here => pure ()
    | .up => l := l.tail
    | .down name =>
      l := name :: l
      if (fs.get? l).isNone then
        match ← entryAt l with
        | some e => fs := fs.put l e
        | none => pure ()
  return fs

/-- Carries out a change. A file takes its place whole, by a rename. -/
def carryOut (c : Change) : IO Unit := do
  match c with
  | .set l (.dir _) => IO.FS.createDir (pathText l)
  | .set l (.file mode data) =>
    let passing := pathText l ++ ".new"
    IO.FS.writeBinFile passing ⟨data.toArray⟩
    if mode = FileSystem.temporaryMode then
      IO.setAccessRights passing ⟨⟨true, true, false⟩, ⟨false, false, false⟩, ⟨false, false, false⟩⟩
    IO.FS.rename passing (pathText l)
  | .set _ (.link _) => pure ()
  | .gone l => IO.FS.removeFile (pathText l)

/-- The variables that the program looks at. -/
def environment : IO Environment := do
  let names := [Environment.projectRoot, Environment.keysFile, Environment.exportScript,
    "CLICOLOR_FORCE", "PATH", "HOME"]
  let values ← names.mapM fun name => do
    return (← IO.getEnv name).map fun value => (name, Utf8.ofString value)
  return ⟨values.filterMap id⟩

/-- Draws a key. -/
def draw : IO DeviceKey := do
  let data := (← IO.getRandomBytes keyLength.toUSize).toList
  if h : data.length = keyLength then return ⟨data, h⟩
  else throw (IO.userError "no random bytes")

/-- The working directory with nothing in it, or nowhere if it has been taken away. -/
def start : IO FileSystem := do
  try
    let cwd := Path.ofString (← IO.currentDir).toString
    let fs ← bring FileSystem.empty cwd
    match fs.find cwd with
    | .ok l => return fs.withCwd l
    | .error _ => return fs.withCwd nowhere
  catch _ => return FileSystem.empty.withCwd nowhere

/-- What is told of a run that breaks off: there is one thread, and nothing is traced. -/
def runtime : Runtime := ⟨1, "print", ""⟩

/-- What is printed when the arguments are not accepted, or help is asked for. -/
def usage : String :=
  "Usage: devkeys [--project-root <DIR>] [--keys-file <FILE>] <COMMAND>\n\n" ++
  "Commands:\n  keymgr                   [--generate] [--export-key] [--cmake-dump <FILE>] " ++
  "[--dev-id <ID>] [--manufacturer-id <ID>]\n  export-compile-commands\n"

/-- Runs the program. -/
def perform (args : List String) : IO UInt32 := do
  let bytes := args.map Utf8.ofString
  let env ← environment
  let mut fs ← start
  match Invocation.ofArguments bytes with
  | .error _ => pure ()
  | .ok i =>
    for _ in [0:footprintRounds] do
      for p in i.footprint env fs do
        fs ← bring fs p
    if i.command = .exportCompileCommands then fs := Shell.install fs
  match CommandLine.run (Shell.launch env) runtime env fs (← draw) bytes Output.standard with
  | .refused fault =>
    if fault.exitStatus = 0 then IO.print usage else IO.eprint usage
    return fault.exitStatus.toUInt32
  | .finished status out messages after =>
    (fs.changes after).forM carryOut
    (← IO.getStdout).write ⟨(out.printed ++ out.waiting).toArray⟩
    IO.eprint messages
    return status.toUInt32

end DeviceKeys.Program

/-- The entry of the program. -/
def main (args : List String) : IO UInt32 := DeviceKeys.Program.perform args
