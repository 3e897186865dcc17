import DeviceKeys.Environment
import DeviceKeys.Shell.Evaluation

/-! # Starting a script

`launch` starts an executable file in a directory, as the system does, and lets it run to its end and
to the end of the commands that it leaves in the background. A path with a slash is walked from the
directory in which the script starts; a name without one is looked for in the directories that the
environment lists.

`install` makes the programs of the system and the devices in a file system that lacks them.
-/

namespace DeviceKeys.Shell

open Act

/-! ## 1. The system -/

/-- The paths of the programs of the system. -/
def programPaths : List Path :=
  Search.programDirs.flatMap fun dir =>
    Tool.all.map fun t => dir.join (Path.ofString t.1)

/-- The paths of the devices. -/
def devicePaths : List Path :=
  (Redirection.devices.map (·.1) ++ Redirection.streamDevices.map (·.1)).map FileSystem.pathTo

/-- The file system with an empty file at a path where nothing stands. -/
def installFile (mode : Nat) (fs : FileSystem) (p : Path) : FileSystem :=
  let fs := (fs.makeDirs (p.parent?.getD p)).2
  match fs.locate true p with
  | .ok (.missing dir name) => fs.put (name :: dir) (.file mode [])
  | _ => fs

/-- The file system with the programs of the system and the devices. -/
def install (fs : FileSystem) : FileSystem :=
  devicePaths.foldl (installFile 0o666) (programPaths.foldl (installFile 0o755) fs)

/-! ## 2. Starting -/

/-- The program that a path or a name stands for. -/
def program (env : Environment) (fs : FileSystem) (script : Path) :
    Except IoFault Search.Started :=
  let start (path : Path) : Except IoFault Search.Started :=
    Search.programOf fs Search.interpreterLimit path (ofBytes script.bytes) []
  if script.bytes.contains Path.slash then start script
  else if script.bytes.isEmpty then .error .noEntry
  else
    let list := ((env.bindings.lookup "PATH").map ofBytes).getD Tool.usualPath.toList
    let paths := (Search.candidates list (ofBytes script.bytes)).map toPath
    match paths.find? fs.exists? with
    | some path => start path
    | none => .error .noEntry

/-- The numbers of the open files of a script that starts, and of its pipes. -/
def outFile : Nat := 1

/-- The number of the open file for the error output, and of its pipe. -/
def errFile : Nat := 2

/-- The process of a script that starts. -/
def startProcess (env : Environment) (dir : Location) : Process :=
  Evaluation.fresh []
    { number := scriptNumber
      shell := scriptNumber
      parent := scriptNumber - 1
      dir := dir
      logical := ofBytes (FileSystem.pathTo dir).bytes
      mask := 0o022
      streams := [(0, 0), (1, outFile), (2, errFile)]
      bindings := env.bindings.map fun (name, value) =>
        (name.toList, ⟨some (ofBytes value), true, false⟩)
      functions := []
      aliases := []
      name := []
      arguments := []
      options := []
      traps := []
      status := 0
      held := none
      outputStatus := 0
      line := 0
      reached := 0
      label := none
      loops := 0
      calls := 0
      saved := []
      background := none
      tested := false
      hashed := []
      optionIndex := 1
      optionPlace := 0 }

/-- The processes when a script starts. -/
def start (env : Environment) (fs : FileSystem) : Machine where
  fs := fs
  files := [(0, .nowhere), (outFile, .pipe outFile false), (errFile, .pipe errFile false)]
  pipes := []
  count := 3
  texts := []
  lastText := 0
  lastProcess := scriptNumber
  pending := []
  finished := []
  signals := []
  current := startProcess env fs.cwd

/-- Runs a script to its end, and what it leaves in the background. -/
def perform (started : Search.Started) : Act Ending := do
  let ev := Evaluation.evaluator Evaluation.depthLimit
  let ending ←
    try
      match Tool.find? started.program with
      | some tool => Evaluation.become ev started tool
      | none => pure ()
      pure (Ending.exited ((← process).status % 256))
    catch
      | .killed n => pure (.signaled n)
      | _ => pure (.exited ((← process).status % 256))
  runPending ev pendingLimit
  return ending

/-- The directory in which a script is to start. -/
def startDir (fs : FileSystem) (root : Path) : Except IoFault Location := do
  let l ← fs.find root
  if fs.isDirAt l then .ok l else .error .notDirectory

/-- Starts a script in a directory, with an environment and nothing to read. -/
def launch (env : Environment) (script root : Path) (fs : FileSystem) : ScriptRun × FileSystem :=
  let ready : Except IoFault (FileSystem × Search.Started) := do
    if script.bytes.contains 0 || root.bytes.contains 0 then .error .nulInArgument
    else
      let moved := fs.withCwd (← startDir fs root)
      .ok (moved, ← program env moved script)
  match ready with
  | .error e => (.notStarted e, fs)
  | .ok (moved, started) =>
    let (ending, m) := (perform started).run.run (start env moved)
    let ending :=
      match ending with
      | .ok ending => ending
      | .error _ => .exited 2
    let printed (n : Nat) : Bytes := toBytes (pipeText m n)
    (.ended ending (printed outFile) (printed errFile), m.fs.withCwd fs.cwd)

end DeviceKeys.Shell
