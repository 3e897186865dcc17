import DeviceKeys.Shell.Builtin.Basic
import DeviceKeys.Shell.Redirection
import DeviceKeys.Shell.Search

/-! # Commands that say what runs next

`break`, `continue`, `return` and `exit` leave what runs now; `eval`, `.` and `exec` run something
else; `wait` lets what waits in the background run; `trap` and `kill` deal with signals.

A signal to a command in the background ends it before it starts.
-/

namespace DeviceKeys.Shell

namespace Builtin

open Act

/-! ## 1. Leaving -/

/-- Leaves so many loops, or what they do now, but no more loops than there are. -/
def leaveLoops (leave : Nat → Leave) : Builtin := fun _ args => do
  let count ← match args with
    | [] => pure 1
    | a :: _ => natural a
  if count = 0 then fault ("Illegal number: ".toList ++ args.headD [])
  let loops := (← process).loops
  ends 0
  if loops = 0 then return 0 else throw (leave (min count loops))

/-- Leaves loops. -/
def breaks : Builtin := leaveLoops .breaks

/-- Goes on with the next turn of a loop. -/
def continues : Builtin := leaveLoops .continues

/-- Leaves a function or a script that was read in. -/
def returns : Builtin := fun _ args => do
  match args with
  | [] => pure ()
  | a :: _ => ends (← natural a)
  throw .returns

/-- Ends the shell. In an action for a signal the status is the one from before it. -/
def exit : Builtin := fun _ args => do
  match args with
  | [] => change fun p => { p with status := p.held.getD p.status }
  | a :: _ => ends (← natural a)
  throw .exits

/-! ## 2. Running something else -/

/-- Runs its arguments as a text of commands. -/
def eval : Builtin := fun ev args => do
  match ← operands args with
  | [] => return 0
  | args => runText ev (List.intercalate [' '] args) 1

/-- Runs the commands of a file in this shell. -/
def dot : Builtin := fun ev args => do
  match ← operands args with
  | [] => return 0
  | name :: _ =>
    let path ←
      if name.contains '/' then pure name
      else
        let paths := Search.candidates (searchList (← process)) name
        match Search.firstFile (fun e => !e.isDir) (← fs) paths with
        | .ok path => pure path
        | .error _ => fault (name ++ ": not found".toList)
    match (← fs).read (toPath path) with
    | .error .isDirectory => return 0
    | .error e =>
      fault ("cannot open ".toList ++ path ++ ": ".toList ++
        Redirection.openReason "No such file" e)
    | .ok data =>
      let before ← process
      change fun p => { p with label := some path, tested := false }
      let status ←
        try runText ev (ofBytes data) 1
        catch
          | .returns => pure (← process).status
          | l => throw l
      change fun p => { p with label := before.label, tested := before.tested }
      return status

/-- Puts a program in the place of the shell. -/
def execs : Builtin := fun ev args => do
  match ← operands args with
  | [] => return 0
  | name :: args =>
    match ← ev.exec (name :: args) with
    | .ok (.exited status) => do
      change fun p => { p with traps := [], status := status }
      throw .exits
    | .ok (.signaled n) => throw (.killed n)
    | .error e => do
      complain (name ++ ": ".toList ++ unstartedReason e)
      ends (unstartedStatus e)
      throw .exits

/-! ## 3. Waiting -/

/-- Waits for commands in the background. -/
def wait : Builtin := fun ev args => do
  let args ← operands args
  let numbers ← args.mapM natural
  runPending ev pendingLimit
  let finished := (← get).finished
  match numbers.getLast? with
  | none => return 0
  | some n =>
    match finished.lookup n with
    | some ending => do
      tellKilled ending
      return statusOf ending
    | none => return 127

/-! ## 4. Signals -/

/-- The names of the signals; the end of the shell counts as one. -/
def signalTexts : List (Nat × String) :=
  (0, "EXIT") :: signalNames.map fun (n, name) => (n, (name.drop 3).toString)

/-- The number of a signal given by number or name. -/
def signal? (text : Chars) : Option Nat :=
  if !text.isEmpty && text.all Char.isDigit then
    let n := (Arithmetic.digits 10 0 text).1
    if n < 65 then some n else none
  else
    (signalTexts.find? fun p => p.2.toList = text.map Char.toUpper).map (·.1)

/-- The name of a signal. -/
def signalText (n : Nat) : Chars :=
  match signalTexts.lookup n with
  | some text => text.toList
  | none => "RT".toList ++ Arithmetic.shown n

/-- Sets an action for a signal, or takes it away. -/
def setTrap (n : Nat) (action : Option Chars) : Act Unit :=
  change fun p =>
    let others := p.traps.filter (·.1 ≠ n)
    { p with traps := action.elim others fun a => (n, a) :: others }

/-- Sets actions for signals, or lists them. -/
def trap : Builtin := fun _ args => do
  let inOrder (a b : Nat × Chars) : Bool := a.1 ≤ b.1
  match ← operands args with
  | [] => do
    out (((← process).traps.mergeSort inOrder).flatMap fun (n, action) =>
      lineOf ("trap -- ".toList ++ quoted action ++ ' ' :: signalText n))
    return 0
  | first :: rest =>
    let isNumber := first.all Char.isDigit && (signal? first).isSome
    let (action, names) : Option Chars × List Chars :=
      if rest.isEmpty || isNumber then (none, first :: rest)
      else (if first = ['-'] then none else some first, rest)
    let rec go : List Chars → Act Nat
      | [] => return 0
      | name :: names => do
        match signal? name with
        | some n => do
          setTrap n action
          go names
        | none => do
          err (lineOf ("trap: ".toList ++ name ++ ": bad trap".toList))
          return 1
    go names

/-- Sends a signal to a process. False when there is none of that number. -/
def send (signal : Nat) (target : Nat) : Act Bool := do
  let m ← get
  let waiting := m.pending.any fun p => p.1.number = target
  if waiting then
    if signal ≠ 0 && !harmless.contains signal then
      MonadState.set { m with
        pending := m.pending.filter fun p => p.1.number ≠ target
        finished := (target, .signaled signal) :: m.finished }
    return true
  else if target = m.current.number || target = m.current.parent || target = m.current.shell ||
      target = scriptNumber then
    if signal ≠ 0 then MonadState.set { m with signals := m.signals ++ [(target, signal)] }
    return true
  else return false

/-- How `kill` is used. -/
def killUsage : Chars :=
  ("Usage: kill [-s sigspec | -signum | -sigspec] [pid | job]... or\n" ++
    "kill -l [exitstatus]").toList

/-- Lists the names of signals, or gives the name of one. -/
def listSignals : List Chars → Act Nat
  | [] => do
    out "0\n".toList
    out ((List.range 64).flatMap fun n => lineOf (signalText (n + 1)))
    return 0
  | a :: _ => do
    let n ← natural a
    let n := if 128 < n then n - 128 else n
    if 0 < n && n < 65 then
      out (lineOf (signalText n))
      return 0
    else fault ("invalid signal number or exit status: ".toList ++ a)

/-- Sends a signal to processes. -/
def kill : Builtin := fun _ args => do
  let chosen : Option Nat :=
    match args with
    | ('-' :: name) :: _ => signal? name
    | _ => none
  let (os, targets) ←
    if chosen.isSome then pure ([], args.drop 1) else options "ls:" args
  let lists := os.any (·.1 = 'l')
  let named ← os.filterMapM fun (c, value) => do
    if c = 's' then
      match signal? value with
      | some n => return some n
      | none => fault ("invalid signal number or name: ".toList ++ value)
    else return none
  if lists then listSignals targets
  else if targets.isEmpty then fault killUsage
  else
    let signal := chosen.getD (named.getLast?.getD 15)
    let results ← targets.mapM fun a => do
      if a.head? = some '%' then fault ("No such job: ".toList ++ a)
      let n ← natural (if a.head? = some '-' then a.drop 1 else a)
      let target := if n = 0 then scriptNumber else n
      if ← send signal target then return 0
      else
        complain "No such process\n".toList
        return 1
    return results.foldl max 0

end Builtin

end DeviceKeys.Shell
