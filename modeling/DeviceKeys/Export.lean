import DeviceKeys.Path
import DeviceKeys.FileSystem.Fault
import DeviceKeys.Text.Blank

/-! # The export of compile commands

A project has a script that prints its compile commands. `ScriptRun` says how a run of the script
went, and `exported` takes what it printed, if it ended with status zero and printed UTF-8. What a
script that failed wrote to its error output is shown without the white space around it.
-/

namespace DeviceKeys

/-- How a process ended. -/
inductive Ending where
  | exited (status : Nat)
  | signaled (number : Nat)
  deriving DecidableEq, Repr

/-- The names of the signals. -/
def signalNames : List (Nat × String) :=
  [(1, "SIGHUP"), (2, "SIGINT"), (3, "SIGQUIT"), (4, "SIGILL"), (5, "SIGTRAP"), (6, "SIGABRT"),
   (7, "SIGBUS"), (8, "SIGFPE"), (9, "SIGKILL"), (10, "SIGUSR1"), (11, "SIGSEGV"),
   (12, "SIGUSR2"), (13, "SIGPIPE"), (14, "SIGALRM"), (15, "SIGTERM"), (16, "SIGSTKFLT"),
   (17, "SIGCHLD"), (18, "SIGCONT"), (19, "SIGSTOP"), (20, "SIGTSTP"), (21, "SIGTTIN"),
   (22, "SIGTTOU"), (23, "SIGURG"), (24, "SIGXCPU"), (25, "SIGXFSZ"), (26, "SIGVTALRM"),
   (27, "SIGPROF"), (28, "SIGWINCH"), (29, "SIGIO"), (30, "SIGPWR"), (31, "SIGSYS")]

/-- The text of an ending. -/
def Ending.message : Ending → String
  | .exited status => "exit status: " ++ toString status
  | .signaled number =>
    match signalNames.lookup number with
    | some name => "signal: " ++ toString number ++ " (" ++ name ++ ")"
    | none => "signal: " ++ toString number

/-- How a run of a script went. -/
inductive ScriptRun where
  | notStarted (fault : IoFault)
  | ended (ending : Ending) (out err : Bytes)
  deriving DecidableEq

/-- Why there are no compile commands. -/
inductive ExportFault where
  | notStarted (script : Path) (fault : IoFault)
  | failed (script : Path) (ending : Ending) (err : Bytes)
  | notUtf8 (script : Path) (fault : Utf8.Fault)
  deriving DecidableEq

/-- The text of the error behind a fault, if there is one. -/
def ExportFault.cause? : ExportFault → Option String
  | .notStarted _ fault => some fault.message
  | .failed _ _ _ => none
  | .notUtf8 _ fault => some fault.message

/-- The text of a fault, with a text for the error behind it. -/
def ExportFault.messageWith (cause : String) : ExportFault → String
  | .notStarted script _ => "failed to run " ++ script.display ++ ": " ++ cause
  | .failed script ending err =>
    script.display ++ " failed (" ++ ending.message ++ "): " ++ Text.trim (Utf8.display err)
  | .notUtf8 script _ => script.display ++ " produced non-UTF-8 output: " ++ cause

/-- The text of a fault. -/
def ExportFault.message (fault : ExportFault) : String :=
  fault.messageWith (fault.cause?.getD "")

/-- What a run of the script exports. -/
def exported (script : Path) : ScriptRun → Except ExportFault Bytes
  | .notStarted fault => .error (.notStarted script fault)
  | .ended (.exited 0) out _ =>
    match Utf8.decode out with
    | .ok _ => .ok out
    | .error fault => .error (.notUtf8 script fault)
  | .ended ending _ err => .error (.failed script ending err)

end DeviceKeys
