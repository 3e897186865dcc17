import DeviceKeys.KeyFile
import DeviceKeys.Store.KeyTable
import DeviceKeys.Output

/-! # Operations on the key store

`Manager.run` performs one `Operation` on the key store file at a path.

* `generate` draws a key for a device and stores it with the manufacturer id;
* `exportKey` prints the key of a device and a line feed;
* `fetchManufacturerId` prints the manufacturer id of a device as it is;
* `cmakeDump` writes the key table to a file.

The checks come in one order: the ids an operation needs, then the loading of the store, then the
look-up of the device, and only then a write (`ManagerFault`).
-/

namespace DeviceKeys

/-- What to do with the key store. -/
inductive Operation where
  | generate (deviceId manufacturerId : Option String)
  | exportKey (deviceId : Option String)
  | cmakeDump (output : Path)
  | fetchManufacturerId (deviceId : Option String)
  deriving DecidableEq

/-- What an operation did. -/
inductive Outcome where
  | generated (deviceId manufacturerId : String) (replaced : Bool)
  | printed
  | dumped (output : Path) (devices : Nat)
  deriving DecidableEq

/-- Why an operation failed. -/
inductive ManagerFault where
  | missingArgument (what : String)
  | deviceNotFound (id : String)
  | store (fault : StoreFault)
  | tableUnwritable (path : Path) (fault : IoFault)
  | outputFailed (fault : IoFault)
  deriving DecidableEq

/-- The text of the error behind a fault, if there is one. A fault of the key store file is no error
    of its own behind this one: what is behind it is. -/
def ManagerFault.cause? : ManagerFault → Option String
  | .missingArgument _ => none
  | .deviceNotFound _ => none
  | .store fault => some fault.cause
  | .tableUnwritable _ fault => some fault.message
  | .outputFailed fault => some fault.message

/-- The text of a fault, with a text for the error behind it. -/
def ManagerFault.messageWith (cause : String) : ManagerFault → String
  | .missingArgument what => "you need to specify " ++ what
  | .deviceNotFound id => "device not found: " ++ id
  | .store fault => fault.messageWith cause
  | .tableUnwritable path _ => "failed to write " ++ path.display ++ ": " ++ cause
  | .outputFailed _ => "failed to write to stdout: " ++ cause

/-- The text of a fault. -/
def ManagerFault.message (fault : ManagerFault) : String :=
  fault.messageWith (fault.cause?.getD "")

/-- The exit status for a failure of any other kind. -/
def exitFailure : Nat := 1

/-- The exit status when an argument is missing. -/
def exitUsage : Nat := 2

/-- The exit status when the device is not in the store. -/
def exitNotFound : Nat := 3

/-- The exit status for a fault. -/
def ManagerFault.exitStatus : ManagerFault → Nat
  | .missingArgument _ => exitUsage
  | .deviceNotFound _ => exitNotFound
  | _ => exitFailure

/-- What an operation leaves behind. -/
structure Reply where
  result : Except ManagerFault Outcome
  fs : FileSystem
  out : Output

namespace Manager

/-- The value if it is given and not empty. -/
def given (value : Option String) : Option String := value.filter (· ≠ "")

/-- What `generate` needs. -/
def bothIds : String := "both --dev-id and --manufacturer-id"

/-- What printing needs. -/
def deviceIdOnly : String := "--dev-id"

/-- The store in the file at a path. -/
def load (fs : FileSystem) (path : Path) : Except ManagerFault KeyStore :=
  (KeyFile.load fs path).mapError .store

/-- The record of a device. -/
def recordOf (store : KeyStore) (id : String) : Except ManagerFault KeyRecord :=
  match store.get? id with
  | some record => .ok record
  | none => .error (.deviceNotFound id)

/-- Stores a drawn key for a device. -/
def generate (fs : FileSystem) (path : Path) (key : DeviceKey)
    (deviceId manufacturerId : Option String) : Except ManagerFault Outcome × FileSystem :=
  match given deviceId, given manufacturerId with
  | some id, some manufacturer =>
    match load fs path with
    | .error e => (.error e, fs)
    | .ok store =>
      let (previous, store) := store.insert id ⟨manufacturer, key⟩
      match KeyFile.save fs path store with
      | (.ok (), fs) => (.ok (.generated id manufacturer previous.isSome), fs)
      | (.error e, fs) => (.error (.store e), fs)
  | _, _ => (.error (.missingArgument bothIds), fs)

/-- The record of the device that is to be printed. -/
def selected (fs : FileSystem) (path : Path) (deviceId : Option String) :
    Except ManagerFault KeyRecord := do
  match given deviceId with
  | none => .error (.missingArgument deviceIdOnly)
  | some id => recordOf (← load fs path) id

/-- Prints pieces of a value. -/
def print (out : Output) : Except ManagerFault (List Bytes) → Except ManagerFault Outcome × Output
  | .error e => (.error e, out)
  | .ok pieces =>
    match out.writeAll pieces with
    | (.ok (), out) => (.ok .printed, out)
    | (.error e, out) => (.error (.outputFailed e), out)

/-- The pieces that `exportKey` prints: the key and a line feed. -/
def keyPieces (record : KeyRecord) : List Bytes := [Utf8.encode record.key.hexChars, [0x0A]]

/-- The piece that `fetchManufacturerId` prints. -/
def manufacturerPieces (record : KeyRecord) : List Bytes := [Utf8.ofString record.manufacturerId]

/-- Writes the key table of the store to a file. -/
def dump (fs : FileSystem) (path output : Path) : Except ManagerFault Outcome × FileSystem :=
  match load fs path with
  | .error e => (.error e, fs)
  | .ok store =>
    match fs.replace output (Utf8.ofString store.keyTable) with
    | (.ok (), fs) => (.ok (.dumped output store.size), fs)
    | (.error e, fs) => (.error (.tableUnwritable output e), fs)

/-- Performs an operation on the key store file at a path. `key` is the key that is drawn if the
    operation draws one. -/
def run (fs : FileSystem) (path : Path) (key : DeviceKey) (op : Operation) (out : Output) : Reply :=
  match op with
  | .generate deviceId manufacturerId =>
    let (result, fs) := generate fs path key deviceId manufacturerId
    ⟨result, fs, out⟩
  | .exportKey deviceId =>
    let (result, out) := print out ((selected fs path deviceId).map keyPieces)
    ⟨result, fs, out⟩
  | .cmakeDump output =>
    let (result, fs) := dump fs path output
    ⟨result, fs, out⟩
  | .fetchManufacturerId deviceId =>
    let (result, out) := print out ((selected fs path deviceId).map manufacturerPieces)
    ⟨result, fs, out⟩

end Manager

end DeviceKeys
