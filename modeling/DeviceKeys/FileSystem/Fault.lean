import DeviceKeys.Path
import DeviceKeys.Text.Quoted

/-! # Why an operation of the system fails

`IoFault` lists the reasons for which files, paths, outputs and programs fail, and
`IoFault.message` gives the text of each. A reason that the system numbers shows its number. A fault
of a temporary file tells its path.
-/

namespace DeviceKeys

/-- Why an operation of the system fails. -/
inductive IoFault where
  | noEntry
  | execFormat
  | denied
  | busy
  | alreadyExists
  | notDirectory
  | isDirectory
  | invalidArgument
  | noSpace
  | nameTooLong
  | tooManyLinks
  | notUtf8
  | nulInPath
  | nulInArgument
  | other (text : String)
  | atPath (fault : IoFault) (p : Path)
  deriving DecidableEq, Repr

/-- The text of a fault. -/
def IoFault.message : IoFault → String
  | .noEntry => "No such file or directory (os error 2)"
  | .execFormat => "Exec format error (os error 8)"
  | .denied => "Permission denied (os error 13)"
  | .busy => "Device or resource busy (os error 16)"
  | .alreadyExists => "File exists (os error 17)"
  | .notDirectory => "Not a directory (os error 20)"
  | .isDirectory => "Is a directory (os error 21)"
  | .invalidArgument => "Invalid argument (os error 22)"
  | .noSpace => "No space left on device (os error 28)"
  | .nameTooLong => "File name too long (os error 36)"
  | .tooManyLinks => "Too many levels of symbolic links (os error 40)"
  | .notUtf8 => "stream did not contain valid UTF-8"
  | .nulInPath => "file name contained an unexpected NUL byte"
  | .nulInArgument => "nul byte found in provided data"
  | .other text => text
  | .atPath fault p => fault.message ++ " at path " ++ Text.quoteBytes p.bytes

end DeviceKeys
