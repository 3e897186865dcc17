import DeviceKeys.Shell.Expansion

/-! # Redirections

The words of redirections are expanded first (`Redirection.target`). `Redirection.apply` then lets a
stream of the process lead to a file, to where another stream leads, or to a text of the script, and
`Redirection.during` does so for the time of an act. A redirection that cannot be applied fails its
command; words that cannot be expanded end the shell.

A few files are devices: what is written to `/dev/null` is lost, `/dev/full` takes nothing, and
`/dev/stdout` and its like stand for the streams of the process.
-/

namespace DeviceKeys.Shell

namespace Redirection

open Act

/-! ## 1. Opening -/

/-- The location of a device. -/
def device (name : String) : Location := [Utf8.ofString name, Utf8.ofString "dev"]

/-- The devices that lead to no file. -/
def devices : List (Location × Endpoint) :=
  [(device "null", .nowhere), (device "zero", .zeros), (device "full", .full)]

/-- The devices that stand for streams. -/
def streamDevices : List (Location × Nat) :=
  [(device "stdin", 0), (device "stdout", 1), (device "stderr", 2)] ++
    (List.range 10).map fun n => (Utf8.ofString (toString n) :: device "fd", n)

/-- Opens what stands at a location. -/
def openLocation (l : Location) (opening : Opening) : Act Nat := do
  match streamDevices.lookup l with
  | some stream =>
    match ← endpoint? stream with
    | some (n, _) => return n
    | none => openAt .nowhere
  | none =>
    match devices.lookup l with
    | some e => openAt e
    | none =>
      let fs ← fs
      if fs.isDirAt l then openAt .directory else openAt (.file l 0 (opening = .append))

/-- Makes sure that a file is there, empty if it is to be written from the start. A file that is made
    gets the permission bits `mode`. -/
def prepare (fs : FileSystem) (mode : Nat) (path : Path) (opening : Opening) :
    Except IoFault (FileSystem × Location) := do
  match opening with
  | .read => return (fs, ← fs.find path)
  | _ =>
    let emptied := opening = .write || opening = .clobber
    match ← fs.locate true path with
    | .missing dir name =>
      return (fs.put (name :: dir) (.file mode []), name :: dir)
    | .found l =>
      match fs.get? l with
      | some (.file mode _) =>
        return (if emptied then fs.put l (.file mode []) else fs, l)
      | _ => throw .isDirectory

/-- The permission bits of a new file. -/
def newMode (p : Process) : Nat := 0o666 - (0o666 &&& p.mask)

/-- Opens a file by its path. -/
def openFile (path : Chars) (opening : Opening) : Act (Except IoFault Nat) := do
  let spared (l : Location) : Bool := devices.any (·.1 = l) || streamDevices.any (·.1 = l)
  let fs ← fs
  let p ← process
  let plain : Act (Except IoFault Nat) := do
    match prepare fs (newMode p) (toPath path) opening with
    | .ok (fs, l) => do setFs fs; return .ok (← openLocation l opening)
    | .error e => return .error e
  match fs.find (toPath path) with
  | .ok l =>
    if spared l then return .ok (← openLocation l opening)
    else if opening = .write && isSet p 'C' && !fs.isDirAt l then return .error .alreadyExists
    else plain
  | .error _ => plain

/-- The shell's words for the reason why a file cannot be opened. -/
def openReason (missing : String) : IoFault → Chars
  | .noEntry => missing.toList
  | .notDirectory => missing.toList
  | e => reason e

/-! ## 2. Expanding -/

/-- A redirection with its words expanded. -/
inductive Target where
  | file (stream : Nat) (opening : Opening) (path : Chars)
  | join (stream : Nat) (other : Option Nat)
  | here (stream number : Nat)

/-- Tells that a text names no stream, at the line up to which the script was read. -/
def badStream {α : Type} : Act α := do
  change fun p => { p with line := p.reached }
  fault "Syntax error: Bad fd number".toList

/-- The stream that a text behind a joining sign names; none for a hyphen. -/
def streamNamed (text : Chars) : Act (Option Nat) :=
  match text with
  | ['-'] => return none
  | [c] => if c.isDigit then return some (c.toNat - '0'.toNat) else badStream
  | _ => badStream

/-- Expands the words of a redirection. A text of the script is expanded when it is applied. -/
def target (ev : Evaluator) (r : Redirect) : Act Target := do
  match r with
  | .file stream opening w => return .file stream opening (← Expansion.text ev w)
  | .join stream w => return .join stream (← streamNamed (← Expansion.text ev w))
  | .here stream number => return .here stream number

/-! ## 3. Applying -/

/-- A text of the script by its number. -/
def scriptText (number : Nat) : Act Word := return ((← get).texts.lookup number).getD []

/-- Applies a redirection. -/
def apply (ev : Evaluator) (t : Target) : Act Unit := do
  match t with
  | .file stream opening path =>
    match ← openFile path opening with
    | .ok n => lead stream (some n)
    | .error e =>
      if opening = .read then
        fault ("cannot open ".toList ++ path ++ ": ".toList ++ openReason "No such file" e)
      else
        fault ("cannot create ".toList ++ path ++ ": ".toList ++
          openReason "Directory nonexistent" e)
  | .join stream none => lead stream none
  | .join stream (some other) =>
    match ← endpoint? other with
    | some (n, _) => lead stream (some n)
    | none => fault (Arithmetic.shown other ++ ": Bad file descriptor".toList)
  | .here stream number =>
    let text ← Expansion.text ev (← scriptText number)
    let k ← newPipe
    modify fun m => { m with pipes := (k, ⟨[text], text.length⟩) :: m.pipes }
    lead stream (some (← openAt (.pipe k false)))

/-- Lets the streams of the process lead where they led before. -/
def restore (streams : List (Nat × Nat)) : Act Unit := change fun p => { p with streams := streams }

/-- Applies redirections; false, with the streams as before, when one cannot be applied. -/
def applyAll (ev : Evaluator) (ts : List Target) : Act Bool := do
  let streams := (← process).streams
  try
    ts.forM (apply ev)
    return true
  catch
    | .fails => do
      restore streams
      return false
    | l => throw l

/-- Runs an act with redirections expanded and applied. False when one cannot be applied; the act does not run
    then. -/
def during (ev : Evaluator) (rs : List Redirect) (body : Act Unit) : Act Bool := do
  let streams := (← process).streams
  if ← applyAll ev (← rs.mapM (target ev)) then
    try
      body
      restore streams
      return true
    catch l => do
      restore streams
      throw l
  else return false

end Redirection

end DeviceKeys.Shell
