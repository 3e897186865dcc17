import DeviceKeys.Store.Document
import DeviceKeys.FileSystem.Replace

/-! # The key store file

A key store is kept in one file. `KeyFile.load` reads it, where a file that is not there holds the
empty store, and `KeyFile.save` replaces it as a whole. `StoreFault` says what went wrong, with the
path of the file.
-/

namespace DeviceKeys

/-- Why a key store file could not be loaded or saved. -/
inductive StoreFault where
  | unreadable (path : Path) (fault : IoFault)
  | corrupt (path : Path) (refusal : Json.Refusal)
  | unwritable (path : Path) (fault : IoFault)
  deriving DecidableEq

/-- The text of the error behind a fault. -/
def StoreFault.cause : StoreFault → String
  | .unreadable _ fault => fault.message
  | .corrupt _ refusal => refusal.message
  | .unwritable _ fault => fault.message

/-- The text of a fault, with a text for the error behind it. -/
def StoreFault.messageWith (cause : String) : StoreFault → String
  | .unreadable path _ => "failed to read key store " ++ path.display ++ ": " ++ cause
  | .corrupt path _ => "key store " ++ path.display ++ " is corrupt: " ++ cause
  | .unwritable path _ => "failed to write key store " ++ path.display ++ ": " ++ cause

/-- The text of a fault. -/
def StoreFault.message (fault : StoreFault) : String := fault.messageWith fault.cause

namespace KeyFile

/-- The store in the file at a path. -/
def load (fs : FileSystem) (path : Path) : Except StoreFault KeyStore :=
  match fs.read path with
  | .ok document => (KeyStore.ofJson document).mapError (.corrupt path)
  | .error .noEntry => .ok KeyStore.empty
  | .error fault => .error (.unreadable path fault)

/-- Replaces the file at a path by one that holds a store. -/
def save (fs : FileSystem) (path : Path) (store : KeyStore) :
    Except StoreFault Unit × FileSystem :=
  let (result, fs) := fs.replace path store.saved
  (result.mapError (.unwritable path), fs)

end KeyFile

end DeviceKeys
