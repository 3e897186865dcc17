import DeviceKeys.Shell.Builtin.Control
import DeviceKeys.Shell.Builtin.Place
import DeviceKeys.Shell.Builtin.Printing
import DeviceKeys.Shell.Builtin.Test
import DeviceKeys.Shell.Builtin.Variables

/-! # All commands of the shell

A fault in a special command ends the shell, and values given in front of one stay
(`Builtin.special`); other commands are `Builtin.regular`.
-/

namespace DeviceKeys.Shell.Builtin

open Act

/-- Does nothing. -/
def succeed : Builtin := fun _ _ => return 0

/-- Does nothing, and fails. -/
def fail : Builtin := fun _ _ => return 1

/-- Shows the time used, which is none. -/
def times : Builtin := fun _ _ => do
  out "0m0.000000s 0m0.000000s\n0m0.000000s 0m0.000000s\n".toList
  return 0

/-- There is never a job of the terminal. -/
def noJob : Builtin := fun _ _ => fault "No current job".toList

/-- The special commands. -/
def special : List (String × Builtin) :=
  [(".", dot), (":", succeed), ("break", breaks), ("continue", continues), ("eval", eval),
   ("exec", execs), ("exit", exit), ("export", exports), ("local", locals),
   ("readonly", readonlys), ("return", returns), ("set", set), ("shift", shift),
   ("times", times), ("trap", trap), ("unset", unset)]

/-- The commands whose names are looked for only by `command` and `type`. -/
def describers : List String := ["command", "type"]

/-- The other commands. -/
def regular : List (String × Builtin) :=
  [("[", bracket), ("alias", aliasing), ("bg", noJob), ("cd", cd), ("chdir", cd), ("echo", echo),
   ("false", fail), ("fg", noJob), ("getopts", getopts), ("hash", hash), ("jobs", succeed),
   ("kill", kill), ("printf", printf), ("pwd", pwd), ("read", read), ("test", test),
   ("true", succeed), ("ulimit", ulimit), ("umask", umask), ("unalias", unalias), ("wait", wait)]

/-- Shows what names of commands lead to. -/
def shows (words : Bool) (names : List Chars) : Act Nat := do
  let results ← names.mapM
    (describe (special.map (·.1)) (describers ++ regular.map (·.1)) words)
  return results.foldl max 0

/-- Shows what names of commands lead to. -/
def type : Builtin := fun _ args => do shows true (← operands args)

/-- The command of a name, and whether it is special. -/
def find? (name : Chars) : Option (Bool × Builtin) :=
  let name := String.ofList name
  match special.lookup name with
  | some b => some (true, b)
  | none => (if name = "type" then some type else regular.lookup name).map fun b => (false, b)

end DeviceKeys.Shell.Builtin
