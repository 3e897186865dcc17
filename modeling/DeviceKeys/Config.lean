import DeviceKeys.ProjectRoot
import DeviceKeys.Toml.Document

/-! # Settings of a project

A project may hold the file `.devkeys.toml`, whose tables name the key store file and the export
script. `Config.load` gives each of the two settings from the first source that has it: its
variable, the file, the default. A file that is there must be readable text and of the right shape,
also when the variables override all of it.

Of the two tables only one key is looked at. A list in the place of a table gives its first value to
that key, and a date gives it none.
-/

namespace DeviceKeys

/-- The settings of a project. -/
structure Config where
  keysFile : Path
  exportScript : Path
  deriving DecidableEq

/-- Why the settings could not be loaded. -/
inductive ConfigFault where
  | unreadable (path : Path) (fault : IoFault)
  | malformed (path : Path)
  deriving DecidableEq

/-- The text of the error behind a fault. What the reader of documents says is cut off behind its
    first words. -/
def ConfigFault.cause : ConfigFault → String
  | .unreadable _ fault => fault.message
  | .malformed _ => "TOML parse error"

/-- The text of a fault, with a text for the error behind it. -/
def ConfigFault.messageWith (cause : String) : ConfigFault → String
  | .unreadable path _ => "failed to read config file " ++ path.display ++ ": " ++ cause
  | .malformed path => "failed to parse config file " ++ path.display ++ ": " ++ cause

/-- The text of a fault. -/
def ConfigFault.message (fault : ConfigFault) : String := fault.messageWith fault.cause

namespace Config

/-- The name of the settings file in the project root. -/
def fileName : Path := .ofString ".devkeys.toml"

/-- The settings of a project without a file. -/
def default : Config := ⟨.ofString "keys.json", .ofString "scripts/export_compile_commands.sh"⟩

/-- The text that an item must be. -/
def textOf : Toml.Item → Option String
  | .text s => some s
  | _ => none

/-- The text under a key, if there is one; none if something else stands there. -/
def textUnder (entries : List (String × Toml.Item)) (key : String) : Option (Option String) :=
  match entries.lookup key with
  | none => some none
  | some item => (textOf item).map some

/-- The setting under a key of a table of the document. The outer option is none when the document
    has the wrong shape there. -/
def setting (doc : Toml.Table) (table key : String) : Option (Option String) :=
  match doc.find? table with
  | none => some none
  | some (.headed _ entries) => textUnder entries key
  | some (.braced _ entries) => textUnder entries key
  | some (.list []) => some none
  | some (.list (item :: _)) => (textOf item).map some
  | some .moment => some none
  | some _ => none

/-- The settings of a document. -/
def ofDocument (doc : Toml.Table) : Option Config := do
  let keysFile ← setting doc "keystore" "path"
  let exportScript ← setting doc "compile_commands" "script"
  some ⟨(keysFile.map Path.ofString).getD default.keysFile,
    (exportScript.map Path.ofString).getD default.exportScript⟩

/-- The settings that a text spells. -/
def ofText (text : List Char) : Option Config := (Toml.document? text).bind ofDocument

/-- The settings with the variables put over them. -/
def override (c : Config) (env : Environment) : Config :=
  ⟨(env.path? Environment.keysFile).getD c.keysFile,
    (env.path? Environment.exportScript).getD c.exportScript⟩

/-- The settings in a file. -/
def loadFile (fs : FileSystem) (path : Path) : Except ConfigFault Config :=
  match fs.readText path with
  | .error e => .error (.unreadable path e)
  | .ok text =>
    match ofText text with
    | some c => .ok c
    | none => .error (.malformed path)

/-- The settings of the project at a root. -/
def load (fs : FileSystem) (root : Path) (env : Environment) : Except ConfigFault Config := do
  let path := root.join fileName
  let c ← if fs.exists? path then loadFile fs path else .ok default
  .ok (c.override env)

/-- The path of the key store file. -/
def keysPath (c : Config) (root : Path) : Path := root.join c.keysFile

/-- The path of the export script. -/
def scriptPath (c : Config) (root : Path) : Path := root.join c.exportScript

end Config

/-- The path of the key store file for a run. One that is given on the command line is seen from the
    working directory, and no settings are looked at. -/
def keysPath (fs : FileSystem) (given : Option Path) (cwd root : Path) (env : Environment) :
    Except ConfigFault Path :=
  match given with
  | some path => .ok (cwd.join path)
  | none => (Config.load fs root env).map (·.keysPath root)

end DeviceKeys
