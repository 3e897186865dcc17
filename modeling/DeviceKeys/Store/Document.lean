import DeviceKeys.Store.Written
import DeviceKeys.Json.Skipped

/-! # The key store document, read

`KeyStore.ofJson` reads the JSON document of a key store: one object whose members are the devices.

* A record is an object with exactly one member for the manufacturer id and exactly one for the
  key, among any others, which are passed over; or a list of the two.
* A device id that occurs again replaces the record before it.
* A fault of a record as a whole (a member twice or missing, a count, a text that is no key) is
  placed behind the record if its closing byte follows, and where reading has got to otherwise
  (`Halt`).
-/

namespace DeviceKeys

open Json

/-! ## 1. Parts of a document -/

/-- Refuses a value, named by what it is. -/
def refuse {α : Type} (expected : Expected) (s : Bytes) : Except Fault α :=
  let named (found : Except Fault (Found × Bytes)) : Except Fault α :=
    match found with
    | .error e => .error e
    | .ok (found, rest) => stopAt (.wrongType found expected) rest
  match s with
  | [] => stopPast .valueMissing []
  | b :: r =>
    if b = 0x6E then named ((readWord [0x75, 0x6C, 0x6C] r).map (.null, ·))
    else if b = 0x74 then named ((readWord [0x72, 0x75, 0x65] r).map (.boolean true, ·))
    else if b = 0x66 then named ((readWord [0x61, 0x6C, 0x73, 0x65] r).map (.boolean false, ·))
    else if b = 0x2D then named (readNumber true r)
    else if isDigit b then named (readNumber false s)
    else if b = 0x22 then named ((readString r).map fun p => (.string p.1, p.2))
    else if b = 0x5B then named (.ok (.sequence, s))
    else if b = 0x7B then named (.ok (.map, s))
    else stopPast .valueMissing s

/-- Reads a string value. -/
def readText (s : Bytes) : Except Fault (String × Bytes) :=
  match skipSpace s with
  | [] => stopPast .endInValue []
  | b :: r => if b = 0x22 then readString r else refuse .string (b :: r)

/-- Goes to the next member of an object: true, and the bytes from its name on without the opening
    quote; or false, and the bytes from the closing brace on. -/
def nextMember (first : Bool) (s : Bytes) : Except Fault (Bool × Bytes) :=
  match skipSpace s with
  | [] => stopPast .endInObject []
  | b :: r =>
    if b = 0x7D then .ok (false, b :: r)
    else if first then
      if b = 0x22 then .ok (true, r) else stopPast .nameNotString (b :: r)
    else if b = 0x2C then
      match skipSpace r with
      | [] => stopPast .endInValue []
      | c :: r =>
        if c = 0x22 then .ok (true, r)
        else if c = 0x7D then stopPast .trailingComma (c :: r)
        else stopPast .nameNotString (c :: r)
    else stopPast .objectSeparatorMissing (b :: r)

/-- Reads the colon after a name. -/
def readColon (s : Bytes) : Except Fault Bytes :=
  match skipSpace s with
  | [] => stopPast .endInObject []
  | b :: r => if b = 0x3A then .ok r else stopPast .colonMissing (b :: r)

/-- Goes to the next element of a list: true, and the bytes from it on; or false, and the bytes from
    the closing bracket on. -/
def nextElement (first : Bool) (s : Bytes) : Except Fault (Bool × Bytes) :=
  match skipSpace s with
  | [] => stopPast .endInList []
  | b :: r =>
    if b = 0x5D then .ok (false, b :: r)
    else if first then .ok (true, b :: r)
    else if b = 0x2C then
      match skipSpace r with
      | [] => stopPast .endInValue []
      | c :: r => if c = 0x5D then stopPast .trailingComma (c :: r) else .ok (true, c :: r)
    else stopPast .listSeparatorMissing (b :: r)

/-- Reads the closing bracket of a list. -/
def closeList (s : Bytes) : Except Fault Bytes :=
  match skipSpace s with
  | [] => stopPast .endInList []
  | b :: r =>
    if b = 0x5D then .ok r
    else if b = 0x2C then
      match skipSpace r with
      | [] => stopPast .trailingCharacters []
      | c :: r =>
        if c = 0x5D then stopPast .trailingComma (c :: r)
        else stopPast .trailingCharacters (c :: r)
    else stopPast .trailingCharacters (b :: r)

/-! ## 2. Records -/

/-- Why the reading of a record stopped: at a place of the document, or for a cause that concerns
    the record as a whole, with the bytes that were left. -/
inductive Halt where
  | placed (fault : Fault)
  | whole (cause : Cause) (rest : Bytes)

/-- The fault of a record in braces. -/
def Halt.inObject : Halt → Fault
  | .placed fault => fault
  | .whole cause rest =>
    match skipSpace rest with
    | b :: r => if b = 0x7D then ⟨cause, r.length⟩ else ⟨cause, r.length + 1⟩
    | [] => ⟨cause, 0⟩

/-- The fault of a record in brackets. -/
def Halt.inList : Halt → Fault
  | .placed fault => fault
  | .whole cause rest =>
    match skipSpace rest with
    | b :: r =>
      if b = 0x5D then ⟨cause, r.length⟩
      else if b = 0x2C then ⟨cause, (skipSpace r).length⟩
      else ⟨cause, r.length + 1⟩
    | [] => ⟨cause, 0⟩

/-- A step that stops at a place. -/
def placing {α : Type} : Except Fault α → Except Halt α
  | .ok a => .ok a
  | .error e => .error (.placed e)

/-- Reads a key. -/
def readKey (s : Bytes) : Except Halt (DeviceKey × Bytes) := do
  let (text, rest) ← placing (readText s)
  match DeviceKey.ofHex text with
  | .ok key => .ok (key, rest)
  | .error e => .error (.whole (.notKey e) rest)

/-- The members of a record read so far. -/
structure PartialRecord where
  manufacturerId : Option String
  key : Option DeviceKey

/-- The record, if no member is missing. -/
def PartialRecord.complete (p : PartialRecord) : Except Cause KeyRecord :=
  match p.manufacturerId, p.key with
  | none, _ => .error (.missingField manufacturerIdName)
  | some _, none => .error (.missingField keyName)
  | some m, some k => .ok ⟨m, k⟩

/-- Reads the value of a member. -/
def readMember (p : PartialRecord) (name : String) (s : Bytes) :
    Except Halt (PartialRecord × Bytes) :=
  if name = manufacturerIdName then
    if p.manufacturerId.isSome then .error (.whole (.duplicateField name) s)
    else do
      let r ← placing (readColon s)
      let (m, r) ← placing (readText r)
      .ok ({ p with manufacturerId := some m }, r)
  else if name = keyName then
    if p.key.isSome then .error (.whole (.duplicateField name) s)
    else do
      let r ← placing (readColon s)
      let (k, r) ← readKey r
      .ok ({ p with key := some k }, r)
  else do
    let r ← placing (readColon s)
    let r ← placing (skipValue r)
    .ok (p, r)

/-- Reads the members of a record up to the closing brace. -/
def readMembers : Nat → Bool → PartialRecord → Bytes → Except Halt (PartialRecord × Bytes)
  | 0, _, _, _ => placing (stopPast .endInObject [])
  | n + 1, first, p, s => do
    let (more, r) ← placing (nextMember first s)
    if more then
      let (name, r) ← placing (readString r)
      let (p, r) ← readMember p name r
      readMembers n false p r
    else .ok (p, r)

/-- Reads a record in braces from the byte after the opening one. -/
def readObjectRecord (s : Bytes) : Except Halt (KeyRecord × Bytes) := do
  let (p, r) ← readMembers (s.length + 1) true ⟨none, none⟩ s
  match p.complete with
  | .ok record => .ok (record, r.drop 1)
  | .error cause => .error (.whole cause r)

/-- Reads a record in brackets from the byte after the opening one. -/
def readListRecord (s : Bytes) : Except Halt (KeyRecord × Bytes) := do
  let (more, r) ← placing (nextElement true s)
  if more then
    let (m, r) ← placing (readText r)
    let (more, r) ← placing (nextElement false r)
    if more then
      let (k, r) ← readKey r
      let r ← placing (closeList r)
      .ok (⟨m, k⟩, r)
    else .error (.whole (.wrongCount 1) r)
  else .error (.whole (.wrongCount 0) r)

/-- Reads a record. -/
def readRecord (s : Bytes) : Except Fault (KeyRecord × Bytes) :=
  match skipSpace s with
  | [] => stopPast .endInValue []
  | b :: r =>
    if b = 0x7B then (readObjectRecord r).mapError Halt.inObject
    else if b = 0x5B then (readListRecord r).mapError Halt.inList
    else refuse .record (b :: r)

/-! ## 3. Stores -/

/-- Reads the devices up to and with the closing brace. -/
def readDevices : Nat → Bool → KeyStore → Bytes → Except Fault (KeyStore × Bytes)
  | 0, _, _, _ => stopPast .endInObject []
  | n + 1, first, store, s => do
    let (more, r) ← nextMember first s
    if more then
      let (id, r) ← readString r
      let r ← readColon r
      let (record, r) ← readRecord r
      readDevices n false (store.put id record) r
    else .ok (store, r.drop 1)

/-- Reads a store and gives the bytes after it. -/
def readStore (s : Bytes) : Except Fault (KeyStore × Bytes) :=
  match skipSpace s with
  | [] => stopPast .endInValue []
  | b :: r =>
    if b = 0x7B then readDevices (r.length + 1) true KeyStore.empty r else refuse .map (b :: r)

/-- Reads a whole document. -/
def readDocument (document : Bytes) : Except Fault KeyStore := do
  let (store, r) ← readStore document
  match skipSpace r with
  | [] => .ok store
  | b :: r => stopPast .trailingCharacters (b :: r)

/-- The store that a document holds. -/
def KeyStore.ofJson (document : Bytes) : Except Refusal KeyStore :=
  (readDocument document).mapError (Fault.refusal document)

end DeviceKeys
