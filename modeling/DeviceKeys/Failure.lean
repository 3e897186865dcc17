import DeviceKeys.Config
import DeviceKeys.Export
import DeviceKeys.Manager

/-! # Failures of a run

A fault of any part of the program is a `Trouble`. An `ErrorValue` is an error with all that stands
around and behind it: a fault may give the error that it names as its source, and an error may be
met in contexts. From the outside in, the errors form a chain: each is followed by its source.

What is shown of an error are the texts of its chain (`ErrorValue.full`), and its exit status is
that of the first fault of the key manager in the chain (`ErrorValue.exitStatus`). A `Failure` is
what a run ends with: a fault, and the contexts in which it was met.
-/

namespace DeviceKeys

/-- A fault of any part of the program. -/
inductive Trouble where
  | manager (fault : ManagerFault)
  | store (fault : StoreFault)
  | config (fault : ConfigFault)
  | script (fault : ExportFault)
  | io (fault : IoFault)
  | plain (text : String)
  deriving DecidableEq

namespace Trouble

/-- The text of the error behind a fault, if there is one. -/
def cause? : Trouble → Option String
  | .manager fault => fault.cause?
  | .store fault => some fault.cause
  | .config fault => some fault.cause
  | .script fault => fault.cause?
  | .io _ => none
  | .plain _ => none

/-- The text of a fault, with a text for the error behind it. -/
def messageWith (cause : String) : Trouble → String
  | .manager fault => fault.messageWith cause
  | .store fault => fault.messageWith cause
  | .config fault => fault.messageWith cause
  | .script fault => fault.messageWith cause
  | .io fault => fault.message
  | .plain text => text

/-- The text of a fault. -/
def message (trouble : Trouble) : String := trouble.messageWith (trouble.cause?.getD "")

end Trouble

/-- An error with all that stands around and behind it. -/
inductive ErrorValue where
  /-- A fault, and the error that it gives as its source. -/
  | fault (trouble : Trouble) (source : Option ErrorValue)
  /-- A text around an error: a context, or an error of another library with this source. -/
  | within (text : String) (inner : ErrorValue)

namespace ErrorValue

/-- The text of an error. A fault with a source shows the text of that. -/
def message : ErrorValue → String
  | .fault trouble none => trouble.message
  | .fault trouble (some source) => trouble.messageWith source.message
  | .within text _ => text

/-- The error that an error gives as its source. -/
def source? : ErrorValue → Option ErrorValue
  | .fault _ source => source
  | .within _ inner => some inner

/-- The source of an error, the source of that, and so on. -/
def sources : ErrorValue → List ErrorValue
  | .fault _ none => []
  | .fault _ (some source) => source :: source.sources
  | .within _ inner => inner :: inner.sources

/-- An error and all its sources, from the outside in. -/
def chain (e : ErrorValue) : List ErrorValue := e :: e.sources

/-- The fault of the key manager that an error is by itself, if it is one. -/
def managerFault? : ErrorValue → Option ManagerFault
  | .fault (.manager f) _ => some f
  | _ => none

/-- All that is shown of an error. -/
def full (e : ErrorValue) : String := String.intercalate ": " (e.chain.map message)

/-- The exit status for an error. -/
def exitStatus (e : ErrorValue) : Nat :=
  match e.chain.findSome? managerFault? with
  | some f => f.exitStatus
  | none => exitFailure

/-- An error met in some contexts, the innermost first. -/
def wrapped (e : ErrorValue) (contexts : List String) : ErrorValue :=
  contexts.foldl (fun inner context => .within context inner) e

end ErrorValue

/-- A fault with the error behind it, which has no source of its own. -/
def Trouble.value (trouble : Trouble) : ErrorValue :=
  .fault trouble (trouble.cause?.map fun cause => .fault (.plain cause) none)

/-- A fault and the contexts in which it was met, the innermost first. -/
structure Failure where
  trouble : Trouble
  contexts : List String
  deriving DecidableEq

namespace Failure

/-- The failure seen from one more context. -/
def within (f : Failure) (context : String) : Failure :=
  { f with contexts := f.contexts ++ [context] }

/-- The failure as an error. -/
def value (f : Failure) : ErrorValue := f.trouble.value.wrapped f.contexts

/-- The outermost text of a failure. -/
def short (f : Failure) : String := f.value.message

/-- The whole text of a failure. -/
def full (f : Failure) : String := f.value.full

/-- The exit status for a failure. -/
def exitStatus (f : Failure) : Nat := f.value.exitStatus

end Failure

end DeviceKeys
