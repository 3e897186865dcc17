import DeviceKeys.Store

/-! # The key table

`KeyStore.keyTable` declares all keys as a C array: a line with the count of rows, a row of 32
hexadecimal byte literals without leading zeros for each device in the order of the ids, and a
closing line.
-/

namespace DeviceKeys

/-- A byte as a literal. -/
def byteLiteral (b : UInt8) : String := "0x" ++ Text.hexNumber b.toNat

/-- The literals of a key. -/
def DeviceKey.literals (k : DeviceKey) : String :=
  String.intercalate ", " (k.bytes.map byteLiteral)

/-- The row of a key. -/
def DeviceKey.row (k : DeviceKey) : String := "    \x7b" ++ k.literals ++ "\x7d,\n"

/-- The declaration of all keys of a store. -/
def KeyStore.keyTable (s : KeyStore) : String :=
  "uint8_t keys[" ++ toString s.size ++ "][" ++ toString keyLength ++ "] = \x7b\n" ++
    String.join (s.keys.map DeviceKey.row) ++ "\x7d;\n"

end DeviceKeys
