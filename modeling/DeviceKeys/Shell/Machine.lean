import DeviceKeys.Export
import DeviceKeys.FileSystem.Listing
import DeviceKeys.Shell.Arithmetic
import DeviceKeys.Shell.Script

/-! # Processes of a script

A `Machine` is the file system, the open files and the pipes that the processes of a running script
share, with the process that runs now. Processes run one after the other: a command in a pipeline
ends before the next starts to read what it wrote, and a command in the background runs when the
script waits for it or ends.

* A stream of a process leads to an open file by its number, so that processes which inherit a
  stream also share the place reached in its file.
* An `Act` works on the machine. It may end early (`Leave`): out of loops, out of a function, or out
  of the process.
-/

namespace DeviceKeys.Shell

/-! ## 1. The machine -/

/-- The bytes of a text. -/
def toBytes (s : Chars) : Bytes := s.map fun c => UInt8.ofNat c.toNat

/-- The text of some bytes. -/
def ofBytes (s : Bytes) : Chars := s.map fun b => Char.ofNat b.toNat

/-- The path that a text spells. -/
def toPath (s : Chars) : Path := ⟨toBytes s⟩

/-- Where an open file leads. A pipe may be one of which the reader may stop before its writer does.
    A position is the count of bytes in front of it. -/
inductive Endpoint where
  | nowhere
  | zeros
  | full
  | pipe (number : Nat) (mayStop : Bool)
  | file (l : Location) (position : Nat) (atEnd : Bool)
  | directory
  deriving DecidableEq

/-- What was written to a pipe and not read, the last first, and the count of bytes. -/
structure Pipe where
  chunks : List Chars
  size : Nat

/-- A variable of a process: its value, if it has one, whether programs that are started receive
    it, and whether it may not be changed. -/
structure Variable where
  value : Option Chars
  exported : Bool
  fixed : Bool
  deriving DecidableEq

/-- What belongs to one process alone. A copy of a shell keeps the number of that shell beside its
    own. `line` is that of the command that runs, and `reached` the one up to which the script was
    read. -/
structure Process where
  number : Nat
  shell : Nat
  parent : Nat
  dir : Location
  logical : Chars
  mask : Nat
  streams : List (Nat × Nat)
  bindings : List (Chars × Variable)
  functions : List (Chars × Command)
  aliases : List (Chars × Chars)
  name : Chars
  arguments : List Chars
  options : List Char
  traps : List (Nat × Chars)
  status : Nat
  held : Option Nat
  outputStatus : Nat
  line : Nat
  reached : Nat
  label : Option Chars
  loops : Nat
  calls : Nat
  saved : List (List (Chars × Option Variable))
  background : Option Nat
  tested : Bool
  hashed : List (Chars × Chars)
  optionIndex : Nat
  optionPlace : Nat

/-- All processes of a script. A signal waits with the number of the process it was sent to. -/
structure Machine where
  fs : FileSystem
  files : List (Nat × Endpoint)
  pipes : List (Nat × Pipe)
  count : Nat
  texts : List (Nat × Word)
  lastText : Nat
  lastProcess : Nat
  pending : List (Process × Command)
  finished : List (Nat × Ending)
  signals : List (Nat × Nat)
  current : Process

/-- How an act ends early: out of loops, at the end of a loop's body, out of a function, out of the
    process, by a fault of the shell, or by a signal. -/
inductive Leave where
  | breaks (count : Nat)
  | continues (count : Nat)
  | returns
  | exits
  | fails
  | killed (signal : Nat)
  deriving DecidableEq

/-- What a process does. -/
abbrev Act := ExceptT Leave (StateM Machine)

/-- Runs a command of the shell, or a program, given by its name with arguments, in a process of its
    own. -/
structure Evaluator where
  run : Command → Act Unit
  exec : List Chars → Act (Except IoFault Ending)

namespace Act

/-- The process that runs. -/
def process : Act Process := return (← get).current

/-- Changes the process that runs. -/
def change (f : Process → Process) : Act Unit := modify fun m => { m with current := f m.current }

/-- The file system as the process sees it. -/
def fs : Act FileSystem := do
  let m ← get
  return m.fs.withCwd m.current.dir

/-- Puts a file system in the place of the one there was. -/
def setFs (fs : FileSystem) : Act Unit := modify fun m => { m with fs := fs }

/-- Tries a change of the file system. -/
def attempt (change : FileSystem → Except IoFault FileSystem) : Act (Except IoFault Unit) := do
  match change (← fs) with
  | .ok fs' => do setFs fs'; return .ok ()
  | .error e => return .error e

/-- Ends a command with a status. -/
def ends (status : Nat) : Act Unit := change fun p => { p with status := status }

/-! ## 2. Open files -/

/-- Opens a file that leads somewhere, and gives its number. -/
def openAt (e : Endpoint) : Act Nat := do
  let m ← get
  set { m with files := (m.count, e) :: m.files, count := m.count + 1 }
  return m.count

/-- Lets an open file lead elsewhere. -/
def leads (n : Nat) (e : Endpoint) : Act Unit :=
  modify fun m => { m with files := (n, e) :: m.files.filter (·.1 ≠ n) }

/-- Where a stream of the process leads. -/
def endpoint? (stream : Nat) : Act (Option (Nat × Endpoint)) := do
  let m ← get
  return (m.current.streams.lookup stream).bind fun n => (m.files.lookup n).map (n, ·)

/-- Lets a stream of the process lead to an open file, or to none. -/
def lead (stream : Nat) (n : Option Nat) : Act Unit :=
  change fun p =>
    let others := p.streams.filter (·.1 ≠ stream)
    { p with streams := n.elim others fun n => (stream, n) :: others }

/-- The count of bytes in a pipe that stops a writer whose reader may have stopped. -/
def pipeLimit : Nat := 1048576

/-- The number of the signal to a process that writes to a pipe nobody reads. -/
def brokenPipe : Nat := 13

/-- The contents of a file with a text written at a position. -/
def overwrite (old : Bytes) (position : Nat) (new : Bytes) : Bytes :=
  old.take position ++ List.replicate (position - old.length) 0 ++ new ++
    old.drop (position + new.length)

/-- Writes a text to an open file. False when it cannot be written. -/
def writeTo (n : Nat) (e : Endpoint) (text : Chars) : Act Bool := do
  match e with
  | .nowhere => return true
  | .zeros => return true
  | .full => return text.isEmpty
  | .directory => return false
  | .pipe k mayStop =>
    if text.isEmpty then return true
    else
      let m ← get
      let pipe := (m.pipes.lookup k).getD ⟨[], 0⟩
      if mayStop && pipeLimit < pipe.size then throw (.killed brokenPipe)
      else
        let pipe : Pipe := ⟨text :: pipe.chunks, pipe.size + text.length⟩
        set { m with pipes := (k, pipe) :: m.pipes.filter (·.1 ≠ k) }
        return true
  | .file l position atEnd =>
    let m ← get
    match m.fs.get? l with
    | some (.file mode old) =>
      let position := if atEnd then old.length else position
      let new := toBytes text
      set { m with fs := m.fs.put l (.file mode (overwrite old position new)) }
      leads n (.file l (position + new.length) atEnd)
      return true
    | _ => return true

/-- Writes a text to a stream. False when it cannot be written. -/
def write (stream : Nat) (text : Chars) : Act Bool := do
  match ← endpoint? stream with
  | some (n, e) => writeTo n e text
  | none => return false

/-- Writes a text to the output. -/
def out (text : Chars) : Act Unit := do
  let _ ← write 1 text

/-- Writes a text to the error output. -/
def err (text : Chars) : Act Unit := do
  let _ ← write 2 text

/-- What is left to read in an open file. -/
def remaining (e : Endpoint) : Act Chars := do
  let m ← get
  match e with
  | .pipe k _ => return ((m.pipes.lookup k).map fun p => p.chunks.reverse.flatten).getD []
  | .zeros => return List.replicate (pipeLimit + 1) (Char.ofNat 0)
  | .file l position _ =>
    match m.fs.get? l with
    | some (.file _ data) => return ofBytes (data.drop position)
    | _ => return []
  | _ => return []

/-- Leaves only a text to be read in an open file that held more. -/
def leave (n : Nat) (e : Endpoint) (taken : Nat) (rest : Chars) : Act Unit := do
  match e with
  | .pipe k _ =>
    modify fun m => { m with pipes := (k, ⟨[rest], rest.length⟩) :: m.pipes.filter (·.1 ≠ k) }
  | .file l position atEnd => leads n (.file l (position + taken) atEnd)
  | _ => return

/-- Reads all that is left on a stream. -/
def readAll (stream : Nat) : Act Chars := do
  match ← endpoint? stream with
  | some (n, e) =>
    let text ← remaining e
    leave n e text.length []
    return text
  | none => return []

/-- Reads from a stream what a reader takes from the text that is left. -/
def readSome {α : Type} (stream : Nat) (reader : Chars → α × Chars) : Act α := do
  match ← endpoint? stream with
  | some (n, e) =>
    let text ← remaining e
    let (a, rest) := reader text
    leave n e (text.length - rest.length) rest
    return a
  | none => return (reader []).1

/-- What was written to a pipe and not read. -/
def pipeText (m : Machine) (k : Nat) : Chars :=
  ((m.pipes.lookup k).map fun p => p.chunks.reverse.flatten).getD []

/-- A number for a pipe. -/
def newPipe : Act Nat := do
  let m ← get
  set { m with count := m.count + 1 }
  return m.count

/-! ## 3. Messages -/

/-- The start of the shell's own messages. -/
def place (p : Process) : Chars :=
  p.name ++ ": ".toList ++ (toString p.line).toList ++ ": ".toList ++
    p.label.elim [] fun l => l ++ ": ".toList

/-- Writes a message of the shell. -/
def complain (text : Chars) : Act Unit := do
  err (place (← process) ++ text ++ ['\n'])

/-- Ends in a fault of the shell with a message. -/
def fault {α : Type} (text : Chars) : Act α := do
  complain text
  ends 2
  throw .fails

/-- The text of a reason why the system refuses something. -/
def reason (e : IoFault) : Chars :=
  (e.message.toList.takeWhile (· ≠ '(')).reverse.dropWhile (· = ' ') |>.reverse

/-! ## 4. Variables -/

/-- A variable of the process. -/
def binding? (p : Process) (name : Chars) : Option Variable := p.bindings.lookup name

/-- The value of a variable. -/
def valueOf? (p : Process) (name : Chars) : Option Chars := (binding? p name).bind (·.value)

/-- The value of a variable, empty when it has none. -/
def valueOf (p : Process) (name : String) : Chars := (valueOf? p name.toList).getD []

/-- The process with a variable as given. -/
def withVariable (p : Process) (name : Chars) (v : Variable) : Process :=
  { p with bindings := (name, v) :: p.bindings.filter (·.1 ≠ name) }

/-- The process without a variable. -/
def withoutVariable (p : Process) (name : Chars) : Process :=
  { p with bindings := p.bindings.filter (·.1 ≠ name) }

/-- The option with a letter is set. -/
def isSet (p : Process) (option : Char) : Bool := p.options.contains option

/-- The process with the reading of options set to start at an argument. -/
def restartOptions (p : Process) (index : Chars) : Process :=
  { p with
    optionIndex := ((Arithmetic.number? (some 10) index).getD 1).toNat
    optionPlace := 0 }

/-- Gives a variable a value. -/
def assign (name value : Chars) (exported : Bool) : Act Unit := do
  let p ← process
  let v := (binding? p name).getD ⟨none, false, false⟩
  if v.fixed then fault (name ++ ": is read only".toList)
  else
    let exported := exported || v.exported || isSet p 'a'
    let p := withVariable p name ⟨some value, exported, false⟩
    let p := if name = "OPTIND".toList then restartOptions p value else p
    change fun _ => if name = "PATH".toList then { p with hashed := [] } else p

/-- The variables that a program is given when it is started. -/
def environment (p : Process) : List (Chars × Chars) :=
  p.bindings.filterMap fun (name, v) => if v.exported then v.value.map (name, ·) else none

/-! ## 5. Processes -/

/-- The process that the script itself runs in. -/
def scriptNumber : Nat := 4242

/-- The status of a process that a signal ended. -/
def signalStatus (signal : Nat) : Nat := 128 + signal

/-- The status of a process that ended. -/
def statusOf : Ending → Nat
  | .exited status => status
  | .signaled n => signalStatus n

/-- Runs an act in a process of its own and gives how it ended. -/
def inChild (alter : Process → Process) (body : Act Unit) : Act Ending := do
  let m ← get
  let number := m.lastProcess + 1
  let own := m.current
  let child := { own with number := number, parent := own.number }
  set { m with current := alter child, lastProcess := number }
  let r ← tryCatch (do body; return Except.ok ()) fun l => return Except.error l
  let status := (← get).current.status
  modify fun m => { m with current := own }
  return match r with
    | .error (.killed n) => .signaled n
    | _ => .exited (status % 256)

end Act

end DeviceKeys.Shell
