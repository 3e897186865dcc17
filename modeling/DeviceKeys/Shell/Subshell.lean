import DeviceKeys.Shell.Machine

/-! # Scripts and shells inside each other

* `Act.runText` runs a text as a script, line by line.
* `Act.subshell` runs commands in a copy of the shell. What they do to the copy is lost; what they
  print and the files they change stay.
* A command in the background waits in `Machine.pending` until the script waits for it or ends.
* A signal to a process is taken when that process runs: by the action set for it, or by ending the
  process.
-/

namespace DeviceKeys.Shell

namespace Act

/-! ## 1. Texts -/

/-- The commands read from a text so far go on with the names and texts of the machine. -/
def refreshed (s : Source) : Act Source := do
  let m ← get
  return { s with aliases := m.current.aliases, texts := [], count := m.lastText }

/-- Runs what is left of a text, line by line, and gives the status of the last command in it. -/
def runLines (ev : Evaluator) : Nat → Nat → Source → Act Nat
  | 0, status, _ => return status
  | n + 1, status, s => do
    match Script.next (← refreshed s) with
    | .error e =>
      change fun p => { p with line := e.line }
      fault ("Syntax error: ".toList ++ e.reason.toList)
    | .ok (none, _) => return status
    | .ok (some c, s') =>
      modify fun m => { m with texts := s'.texts ++ m.texts, lastText := s'.count }
      change fun p => { p with reached := s'.line }
      if isSet (← process) 'v' then err (s.rest.take (s.rest.length - s'.rest.length))
      if isSet (← process) 'n' then runLines ev n status s'
      else
        match c with
        | .nothing => runLines ev n status s'
        | c =>
          ev.run c
          runLines ev n (← process).status s'

/-- Runs a text as a script that starts at a line, and gives the status of the last command in it. -/
def runText (ev : Evaluator) (text : Chars) (line : Nat) : Act Nat := do
  let reached := (← process).reached
  let status ← runLines ev (text.length + 2) 0 (Source.ofText text line)
  change fun p => { p with reached := reached }
  return status

/-! ## 2. Signals -/

/-- The action that the process has set for a signal, or for its end. -/
def trap? (signal : Nat) : Act (Option Chars) := return (← process).traps.lookup signal

/-- Runs the action set for a signal and keeps the status, which is held for a command in the action
    that ends the shell. -/
def runTrap (ev : Evaluator) (action : Chars) : Act Unit := do
  let p ← process
  let status := p.held.getD p.status
  change fun p => { p with held := some status }
  let _ ← runText ev action 1
  change fun q => { q with held := p.held, status := p.status }

/-- The signals that do not end a process that makes no provision for them. -/
def harmless : List Nat := [0, 17, 18, 19, 20, 21, 22, 23, 28]

/-- Takes the signals that were sent to the process. -/
def takeSignals (ev : Evaluator) : Act Unit := do
  let m ← get
  if m.signals.isEmpty then return
  else
    let (own, others) := m.signals.partition (·.1 = m.current.number)
    set { m with signals := others }
    own.forM fun (_, signal) => do
      match ← trap? signal with
      | some action => if action.isEmpty then return else runTrap ev action
      | none => if harmless.contains signal then return else throw (.killed signal)

/-! ## 3. The end of a process -/

/-- The text that the shell writes about a process that a signal ended. -/
def killedText : List (Nat × String) :=
  [(1, "Hangup"), (3, "Quit"), (4, "Illegal instruction"), (5, "Trace/breakpoint trap"),
   (6, "Aborted"), (7, "Bus error"), (8, "Floating point exception"), (9, "Killed"),
   (10, "User defined signal 1"), (11, "Segmentation fault"), (12, "User defined signal 2"),
   (14, "Alarm clock"), (15, "Terminated")]

/-- Writes about a process that a signal ended. -/
def tellKilled (e : Ending) : Act Unit := do
  match e with
  | .signaled n =>
    match killedText.lookup n with
    | some text => err (text.toList ++ ['\n'])
    | none => return
  | .exited _ => return

/-- A copy of a shell: actions for signals stay only where signals are to be ignored. -/
def copied (p : Process) : Process := { p with traps := p.traps.filter (·.2.isEmpty) }

/-- Runs the action set for the end of the process. -/
def runEndTrap (ev : Evaluator) : Act Unit := do
  match ← trap? 0 with
  | none => return
  | some action =>
    change fun p => { p with traps := p.traps.filter (·.1 ≠ 0) }
    runTrap ev action

/-- Runs a body and then the action set for the end of the process, unless a signal ends it. -/
def toEnd (ev : Evaluator) (body : Act Unit) : Act Unit := do
  try body
  catch
    | .killed n => throw (.killed n)
    | _ => pure ()
  runEndTrap ev

/-- Runs the commands that wait in the background, those that wait for the script's end included. -/
def runPending (ev : Evaluator) : Nat → Act Unit
  | 0 => return
  | n + 1 => do
    let m ← get
    match m.pending with
    | [] => return
    | (p, c) :: rest =>
      set { m with pending := rest }
      let ending ← inChild (fun _ => p) (toEnd ev (ev.run c))
      modify fun m => { m with finished := (p.number, ending) :: m.finished }
      runPending ev n

/-- A bound on the count of commands that wait in the background. -/
def pendingLimit : Nat := 10000

/-- Runs the commands that wait in the background if one of them can write to an open file. -/
def runHolding (ev : Evaluator) (n : Nat) : Act Unit := do
  if (← get).pending.any fun p => p.1.streams.any (·.2 = n) then runPending ev pendingLimit

/-- Runs a body in a copy of the shell, and gives its status. -/
def subshell (ev : Evaluator) (body : Act Unit) : Act Nat := do
  let ending ← inChild copied (toEnd ev body)
  tellKilled ending
  return statusOf ending

/-- Runs a body in a copy of the shell, and gives what it printed and its status. -/
def capture (ev : Evaluator) (body : Act Unit) : Act (Chars × Nat) := do
  let k ← newPipe
  let n ← openAt (.pipe k false)
  let status ← subshell ev do
    lead 1 (some n)
    change fun p => { p with tested := false }
    body
  runHolding ev n
  let text := pipeText (← get) k
  modify fun m =>
    { m with files := m.files.filter (·.1 ≠ n), pipes := m.pipes.filter (·.1 ≠ k) }
  return (text, status)

end Act

end DeviceKeys.Shell
