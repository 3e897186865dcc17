import DeviceKeys.Path
import DeviceKeys.Text.Blank

/-! # Environment variables

The variables of a process (`Environment`). A variable counts as a text only if it is UTF-8, and as
a path only if it is not blank; a path is used as it stands, blanks around it included.
-/

namespace DeviceKeys

/-- The variables of a process. -/
structure Environment where
  bindings : List (String × Bytes)
  deriving DecidableEq

namespace Environment

/-- The text of a variable. -/
def text? (env : Environment) (name : String) : Option String :=
  (env.bindings.lookup name).bind Utf8.toString?

/-- The path that a variable holds. -/
def path? (env : Environment) (name : String) : Option Path :=
  ((env.text? name).filter fun value => !Text.isBlank value).map Path.ofString

/-- The variable that names the project root. -/
def projectRoot : String := "DEVKEYS_PROJECT_ROOT"

/-- The variable that names the key store file. -/
def keysFile : String := "DEVKEYS_KEYS_FILE"

/-- The variable that names the export script. -/
def exportScript : String := "DEVKEYS_EXPORT_SCRIPT"

end Environment

end DeviceKeys
