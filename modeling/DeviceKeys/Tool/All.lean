import DeviceKeys.Tool.Awk.Run
import DeviceKeys.Tool.Columns
import DeviceKeys.Tool.Comparing
import DeviceKeys.Tool.Expr
import DeviceKeys.Tool.Find
import DeviceKeys.Tool.Grep
import DeviceKeys.Tool.Listing
import DeviceKeys.Tool.Printing
import DeviceKeys.Tool.Reading
import DeviceKeys.Tool.Script
import DeviceKeys.Tool.Sed.Run
import DeviceKeys.Tool.Sorting
import DeviceKeys.Tool.Starting
import DeviceKeys.Tool.Tree

/-! # All programs of the system -/

namespace DeviceKeys.Tool

/-- The programs by name. -/
def all : List (String × Tool) :=
  [("sh", sh), ("dash", sh), ("bash", sh), ("cat", cat), ("head", head), ("tail", tail), ("wc", wc),
   ("tac", tac), ("rev", rev), ("nl", nl), ("fold", fold), ("tee", tee), ("echo", echo),
   ("printf", printf), ("test", test), ("[", bracket), ("true", succeed), ("false", fail),
   ("pwd", pwd), ("yes", yes), ("seq", seq), ("basename", basename), ("dirname", dirname),
   ("mkdir", mkdir), ("rmdir", rmdir), ("rm", rm), ("cp", cp), ("mv", mv), ("ln", ln),
   ("touch", touch), ("chmod", chmod), ("mktemp", mktemp), ("ls", ls), ("readlink", readlink),
   ("realpath", realpath), ("stat", stat), ("sort", sort), ("uniq", uniq), ("comm", comm),
   ("cut", cut), ("paste", paste), ("tr", tr), ("expand", expand), ("env", env),
   ("printenv", printenv), ("timeout", timeout), ("nohup", nohup), ("nice", nice),
   ("xargs", xargs), ("which", which), ("sleep", sleep), ("kill", kill), ("uname", uname),
   ("whoami", whoami), ("id", userIds), ("grep", grep), ("egrep", egrep), ("fgrep", fgrep),
   ("sed", sed), ("find", find), ("awk", awk), ("mawk", awk), ("expr", expr), ("cmp", cmp),
   ("diff", diff)]

/-- The program of a name. -/
def find? (name : Shell.Chars) : Option Tool := all.lookup (String.ofList name)

end DeviceKeys.Tool
