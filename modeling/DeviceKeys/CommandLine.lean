import DeviceKeys.Arguments
import DeviceKeys.Failure
import DeviceKeys.Style

/-! # A run of the program

`CommandLine.run` takes the arguments, the environment and the file system of a process, and gives
what the run leaves behind (`Ended`): the exit status, what reached standard output, what was
written to standard error, and the file system.

Values go to standard output; warnings, status lines and error texts go to standard error. What the
export script does is not part of the program: it is given as a `Launcher`. Nor is what the runtime
system tells of itself when a run breaks off: it is given as a `Runtime`.
-/

namespace DeviceKeys

/-- Starts a script in a directory of a file system. -/
abbrev Launcher := (script root : Path) → FileSystem → ScriptRun × FileSystem

/-- What is told of a run that breaks off, next to why it does: its thread, the place in the program
    where it breaks off, and the text about tracing that place that stands behind. -/
structure Runtime where
  thread : Nat
  place : String
  trace : String

/-- What a run leaves behind. The texts for arguments that are not accepted, and for help, are left
    to the caller. -/
inductive Ended where
  | refused (fault : ArgumentFault)
  | finished (status : Nat) (out : Output) (messages : String) (fs : FileSystem)

namespace CommandLine

/-- What `--version` prints. -/
def versionText : String := "devkeys 0.1.0\n"

/-- The exit status of a run that breaks off while it prints. -/
def exitBroken : Nat := 101

/-- The context of a fault of the settings. -/
def configContext : String := "failed to load configuration"

/-- The context of a fault in asking for the working directory. -/
def currentDirContext : String := "failed to determine current directory"

/-- The context of a fault of standard output at the end. -/
def flushContext : String := "failed to flush stdout"

/-- The line for a failure. -/
def errorLine (f : Failure) : String := "Error: " ++ f.full ++ "\n"

/-- The text of a run that breaks off while it prints. -/
def brokenText (runtime : Runtime) (e : IoFault) : String :=
  "\nthread 'main' (" ++ toString runtime.thread ++ ") panicked at " ++ runtime.place ++ ":\n" ++
    "failed printing to stdout: " ++ e.message ++ "\n" ++ runtime.trace

/-- The line for a warning. -/
def warningLine (styled : Bool) (text : String) : String :=
  Style.yellow.apply styled "Warning:" ++ " " ++ text ++ "\n"

/-- The line for an operation that succeeded. -/
def statusLine (styled : Bool) (text : String) : String :=
  "  " ++ Style.green.apply styled "✓" ++ " " ++ text ++ "\n"

/-- The end of a run that fails after some messages. -/
def failed (f : Failure) (out : Output) (messages : String) (fs : FileSystem) : Ended :=
  .finished f.exitStatus out (messages ++ errorLine f) fs

/-- The end of a run that fails in loading the settings. -/
def configFailed (fault : ConfigFault) (out : Output) (fs : FileSystem) : Ended :=
  failed ((⟨.config fault, []⟩ : Failure).within configContext) out "" fs

/-- The end of a run that has printed all it has to print. -/
def flushed (out : Output) (messages report : String) (fs : FileSystem) : Ended :=
  match out.flush with
  | (.ok (), out) => .finished 0 out (messages ++ report) fs
  | (.error e, out) =>
    failed ((⟨.io e, []⟩ : Failure).within flushContext) out messages fs

/-- The warning about a manufacturer id that is not used. -/
def warning (styled : Bool) (flags : KeymgrFlags) : String :=
  if !flags.generate && flags.manufacturerId.isSome then
    warningLine styled "--manufacturer-id is only used with --generate"
  else ""

/-- Runs `keymgr` on a key store file. -/
def runKeymgr (styled : Bool) (flags : KeymgrFlags) (path : Path) (key : DeviceKey)
    (fs : FileSystem) (out : Output) : Ended :=
  let messages := warning styled flags
  let reply := Manager.run fs path key flags.operation out
  match reply.result with
  | .error e => failed ⟨.manager e, []⟩ reply.out messages reply.fs
  | .ok outcome =>
    let report := ((outcome.status? styled).map (statusLine styled)).getD ""
    flushed reply.out messages report reply.fs

/-- Runs `export-compile-commands` with a script. -/
def runExport (launch : Launcher) (runtime : Runtime) (script root : Path) (fs : FileSystem)
    (out : Output) : Ended :=
  let (run, fs) := launch script root fs
  match exported script run with
  | .error e => failed ⟨.script e, []⟩ out "" fs
  | .ok text =>
    match out.write text with
    | (.ok (), out) => flushed out "" "" fs
    | (.error e, out) => .finished exitBroken out (brokenText runtime e) fs

/-- Runs what the arguments say in a working directory. -/
def performIn (launch : Launcher) (runtime : Runtime) (env : Environment) (fs : FileSystem)
    (key : DeviceKey) (i : Invocation) (out : Output) (cwd : Path) : Ended :=
  let root := projectRoot fs i.projectRoot env cwd
  match i.command with
  | .keymgr flags =>
    match keysPath fs i.keysFile cwd root env with
    | .error e => configFailed e out fs
    | .ok path => runKeymgr (Style.inUse env) flags path key fs out
  | .exportCompileCommands =>
    match Config.load fs root env with
    | .error e => configFailed e out fs
    | .ok config => runExport launch runtime (config.scriptPath root) root fs out

/-- Runs what the arguments say. -/
def perform (launch : Launcher) (runtime : Runtime) (env : Environment) (fs : FileSystem)
    (key : DeviceKey) (i : Invocation) (out : Output) : Ended :=
  match fs.currentDir with
  | .error e => failed ((⟨.io e, []⟩ : Failure).within currentDirContext) out "" fs
  | .ok cwd => performIn launch runtime env fs key i out cwd

/-- Runs the program. `key` is the key that is drawn if the run draws one. -/
def run (launch : Launcher) (runtime : Runtime) (env : Environment) (fs : FileSystem)
    (key : DeviceKey) (args : List Bytes) (out : Output) : Ended :=
  match Invocation.ofArguments args with
  | .error .version => .finished 0 (out.write (Utf8.ofString versionText)).2 "" fs
  | .error fault => .refused fault
  | .ok i => perform launch runtime env fs key i out

end CommandLine

end DeviceKeys
