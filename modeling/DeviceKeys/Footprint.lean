import DeviceKeys.CommandLine

/-! # What a run looks at

`Invocation.footprint` lists the paths that a run looks at, as far as a part of the file system
shows. When all of them have been brought into that part, the list may show further ones: the
settings name the key store file only after they have been read. `footprintRounds` rounds are
enough: the markers of a workspace, the settings file, and what the settings name.
-/

namespace DeviceKeys

/-- The rounds after which a footprint shows nothing new. -/
def footprintRounds : Nat := 3

namespace Invocation

/-- The paths that name the two settings in a project, if they can be told. -/
def settingPaths (fs : FileSystem) (root : Path) (env : Environment) : List Path :=
  match Config.load fs root env with
  | .ok c => [c.keysPath root, c.scriptPath root]
  | .error _ => []

/-- The paths that an operation on the key store looks at beside it. -/
def operationPaths : Operation → List Path
  | .cmakeDump output => [output]
  | _ => []

/-- The paths that a run looks at. -/
def footprint (i : Invocation) (env : Environment) (fs : FileSystem) : List Path :=
  let cwd := FileSystem.pathTo fs.cwd
  let root := DeviceKeys.projectRoot fs i.projectRoot env cwd
  let markers := cwd.ancestors.map (·.join workspaceMarker)
  let given := (i.keysFile.map cwd.join).toList
  let outputs :=
    match i.command with
    | .keymgr flags => operationPaths flags.operation
    | .exportCompileCommands => []
  markers ++ root.join Config.fileName :: settingPaths fs root env ++ given ++ outputs.map cwd.join

end Invocation

end DeviceKeys
