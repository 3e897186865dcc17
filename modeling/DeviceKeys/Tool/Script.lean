import DeviceKeys.Shell.Builtin.Variables
import DeviceKeys.Tool.Basic

/-! # The program that runs scripts

`Tool.sh` runs the text that stands behind the option `-c`, the file that it is given, or its input.
-/

namespace DeviceKeys.Tool

open Shell Act

/-- The directories in which programs are looked for when the environment lists none. -/
def usualPath : String := "/usr/local/sbin:/usr/local/bin:/usr/sbin:/usr/bin:/sbin:/bin"

/-- The path by which a shell has reached its directory: the one it was told, if it leads there. -/
def startPath (fs : FileSystem) (p : Process) : Chars :=
  let physical := ofBytes (FileSystem.pathTo p.dir).bytes
  match valueOf? p "PWD".toList with
  | some path =>
    match fs.find (toPath path) with
    | .ok l => if path.head? = some '/' && l = p.dir then path else physical
    | .error _ => physical
  | none => physical

/-- Gives the shell the variables that it starts with. -/
def prepareShell : Act Unit := do
  let fs ← fs
  let p ← process
  let path := startPath fs p
  let own : List (String × Chars) :=
    [("IFS", [' ', '\t', '\n']), ("OPTIND", ['1']), ("PPID", Arithmetic.shown p.parent),
     ("PS1", "# ".toList), ("PS2", "> ".toList), ("PS4", "+ ".toList)]
  let usual := if (binding? p "PATH".toList).isNone then [("PATH", usualPath.toList)] else []
  change fun p =>
    let p := (own ++ usual).foldl (fun p (name, value) =>
      withVariable p name.toList ⟨some value, false, false⟩) p
    let p := withVariable p "PWD".toList ⟨some path, true, false⟩
    { p with logical := path }

/-- Reads the options of a shell. Gives whether the commands stand among its arguments, and the
    arguments left. -/
def shellOptions : Nat → List Chars → Act (Bool × List Chars)
  | 0, args => return (false, args)
  | n + 1, args => do
    let letters (on : Bool) (ls : Chars) (rest : List Chars) : Act (Bool × List Chars) := do
      let others := ls.filter fun c => c ≠ 'c' && c ≠ 'l'
      let (given, rest) ← shellOptions n (← Builtin.turnLetters on others rest)
      return (given || ls.contains 'c', rest)
    match args with
    | ['-'] :: rest => return (false, rest)
    | ['-', '-'] :: rest => return (false, rest)
    | ('-' :: ls) :: rest => letters true ls rest
    | ('+' :: ls) :: rest => letters false ls rest
    | args => return (false, args)

/-- Runs a script. -/
def sh : Tool := fun ev args => do
  prepareShell
  let (given, rest) ← shellOptions (args.length + 1) args
  let named (rest : List Chars) : Act Unit := do
    match rest with
    | [] => return
    | name :: rest => change fun p => { p with name := name, arguments := rest }
  let run (text : Chars) : Act Nat := do
    toEnd ev do
      let _ ← runText ev text 1
    return (← process).status
  if given then
    match rest with
    | [] => fault "-c requires an argument".toList
    | text :: rest => do
      named rest
      run text
  else if rest.isEmpty || isSet (← process) 's' then
    change fun p => { p with arguments := rest }
    run (← readAll 0)
  else
    let path := rest.headD []
    match (← fs).read (toPath path) with
    | .error .isDirectory => return 0
    | .error e =>
      fault ("cannot open ".toList ++ path ++ ": ".toList ++
        Redirection.openReason "No such file" e)
    | .ok data => do
      named rest
      run (ofBytes data)

end DeviceKeys.Tool
