import DeviceKeys.Environment
import DeviceKeys.FileSystem.Calls

/-! # The project root

The directory that the key store and the export script belong to. It is given on the command line,
or by a variable, or found: the nearest lexical ancestor of the working directory that contains the
directory `.west`. Failing all, it is the working directory.
-/

namespace DeviceKeys

/-- The directory that marks the top of a workspace. -/
def workspaceMarker : Path := .ofString ".west"

/-- The directory holds the marker of a workspace. -/
def isWorkspace (fs : FileSystem) (dir : Path) : Bool := fs.isDir (dir.join workspaceMarker)

/-- The nearest ancestor of a path that is the top of a workspace. -/
def findWorkspaceRoot (fs : FileSystem) (start : Path) : Option Path :=
  start.ancestors.find? (isWorkspace fs)

/-- The project root for a working directory. -/
def projectRoot (fs : FileSystem) (given : Option Path) (env : Environment) (cwd : Path) : Path :=
  match given, env.path? Environment.projectRoot with
  | some root, _ => cwd.join root
  | none, some root => cwd.join root
  | none, none => (findWorkspaceRoot fs cwd).getD cwd

end DeviceKeys
