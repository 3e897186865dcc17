import DeviceKeys.Store
import DeviceKeys.Json.Quoted

/-! # The texts of a key store

* `KeyStore.compact` and `KeyStore.pretty` are the JSON texts of a store: an object with a member
  for each device, in the order of the ids. The pretty text puts each member on a line of its own,
  indented by two blanks for each level.
* `KeyStore.saved` is the contents of a key store file: the pretty text and a line feed.
* `KeyStore.debug` is the text for diagnostics. It shows ids, and never a key.
-/

namespace DeviceKeys

/-! ## 1. JSON -/

/-- The name of the member that holds the manufacturer id. -/
def manufacturerIdName : String := "manufacturer_id"

/-- The name of the member that holds the key. -/
def keyName : String := "key"

/-- The compact JSON text of a record. -/
def KeyRecord.compact (r : KeyRecord) : List Char :=
  '{' :: Json.quoted manufacturerIdName ++ ':' :: Json.quoted r.manufacturerId ++
    ',' :: Json.quoted keyName ++ ':' :: Json.quoted r.key.toHex ++ ['}']

/-- The pretty JSON text of a record that stands in an object. -/
def KeyRecord.pretty (r : KeyRecord) : List Char :=
  '{' :: "\n    ".toList ++ Json.quoted manufacturerIdName ++ ": ".toList ++
    Json.quoted r.manufacturerId ++ ",\n    ".toList ++ Json.quoted keyName ++ ": ".toList ++
    Json.quoted r.key.toHex ++ "\n  ".toList ++ ['}']

/-- Texts with a separator between them. -/
def joinChars (sep : List Char) : List (List Char) → List Char
  | [] => []
  | [x] => x
  | x :: y :: rest => x ++ sep ++ joinChars sep (y :: rest)

namespace KeyStore

/-- The compact JSON text of a store. -/
def compactChars (s : KeyStore) : List Char :=
  '{' :: joinChars [','] (s.entries.map fun e => Json.quoted e.1 ++ ':' :: e.2.compact) ++ ['}']

/-- The pretty JSON text of a store. -/
def prettyChars (s : KeyStore) : List Char :=
  if s.entries.isEmpty then ['{', '}']
  else
    '{' :: "\n  ".toList ++
      joinChars ",\n  ".toList
        (s.entries.map fun e => Json.quoted e.1 ++ ": ".toList ++ e.2.pretty) ++ ['\n', '}']

/-- The compact JSON text of a store. -/
def compact (s : KeyStore) : String := String.ofList s.compactChars

/-- The pretty JSON text of a store. -/
def pretty (s : KeyStore) : String := String.ofList s.prettyChars

/-- The contents of the file that holds a store. -/
def saved (s : KeyStore) : Bytes := Utf8.encode (s.prettyChars ++ ['\n'])

end KeyStore

/-! ## 2. Diagnostics -/

/-- The diagnostic text of a record. -/
def KeyRecord.debug (r : KeyRecord) : String :=
  "KeyRecord \x7b manufacturer_id: " ++ Text.quote r.manufacturerId ++
    ", key: " ++ r.key.redacted ++ " \x7d"

/-- The diagnostic text of a store. -/
def KeyStore.debug (s : KeyStore) : String :=
  "KeyStore \x7b records: \x7b" ++
    String.intercalate ", " (s.entries.map fun e => Text.quote e.1 ++ ": " ++ e.2.debug) ++
    "\x7d \x7d"

end DeviceKeys
