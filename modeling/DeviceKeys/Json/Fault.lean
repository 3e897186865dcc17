import DeviceKeys.Key
import DeviceKeys.Decimal.Shortest

/-! # Why a key store document is refused

* `Json.Cause` lists the causes, `Json.Cause.message` their texts.
* A `Json.Fault` is a cause and the place at which reading stopped, kept as the count of bytes that
  were left. `Json.Refusal` has the place as a line and a column, both counted in the bytes before
  it: lines from one, columns from the last line feed.
* Readers fail at the place they have reached (`stopAt`), or one byte later when the byte at hand
  is the wrong one (`stopPast`).
-/

namespace DeviceKeys.Json

/-- What a document holds where something else must stand. -/
inductive Found where
  | null
  | boolean (b : Bool)
  | integer (n : Int)
  | floating (negative : Bool) (x : Binary64)
  | string (s : String)
  | sequence
  | map
  deriving DecidableEq

/-- What must stand at a place of a key store document. -/
inductive Expected where
  | map
  | record
  | string
  deriving DecidableEq

/-- Why a document is refused. -/
inductive Cause where
  | endInValue
  | endInString
  | endInList
  | endInObject
  | colonMissing
  | listSeparatorMissing
  | objectSeparatorMissing
  | wordBroken
  | valueMissing
  | escapeUnknown
  | escapeUnfinished
  | surrogateAlone
  | notUtf8
  | controlCharacter
  | numberMalformed
  | numberTooLarge
  | nameNotString
  | trailingComma
  | trailingCharacters
  | wrongType (found : Found) (expected : Expected)
  | wrongCount (count : Nat)
  | missingField (name : String)
  | duplicateField (name : String)
  | notKey (fault : HexFault)
  deriving DecidableEq

/-- The text of what a document holds. -/
def Found.message : Found → String
  | .null => "null"
  | .boolean b => "boolean `" ++ (if b then "true" else "false") ++ "`"
  | .integer n => "integer `" ++ toString n ++ "`"
  | .floating negative x =>
    "floating point `" ++ (if negative then "-" else "") ++ x.text ++ "`"
  | .string s => "string " ++ Text.quote s
  | .sequence => "sequence"
  | .map => "map"

/-- The text of what must stand at a place. -/
def Expected.message : Expected → String
  | .map => "a map"
  | .record => "struct KeyRecord"
  | .string => "a string"

/-- The text of a cause. -/
def Cause.message : Cause → String
  | .endInValue => "EOF while parsing a value"
  | .endInString => "EOF while parsing a string"
  | .endInList => "EOF while parsing a list"
  | .endInObject => "EOF while parsing an object"
  | .colonMissing => "expected `:`"
  | .listSeparatorMissing => "expected `,` or `]`"
  | .objectSeparatorMissing => "expected `,` or `\x7d`"
  | .wordBroken => "expected ident"
  | .valueMissing => "expected value"
  | .escapeUnknown => "invalid escape"
  | .escapeUnfinished => "unexpected end of hex escape"
  | .surrogateAlone => "lone leading surrogate in hex escape"
  | .notUtf8 => "invalid unicode code point"
  | .controlCharacter => "control character (\\u0000-\\u001F) found while parsing a string"
  | .numberMalformed => "invalid number"
  | .numberTooLarge => "number out of range"
  | .nameNotString => "key must be a string"
  | .trailingComma => "trailing comma"
  | .trailingCharacters => "trailing characters"
  | .wrongType found expected =>
    "invalid type: " ++ found.message ++ ", expected " ++ expected.message
  | .wrongCount count =>
    "invalid length " ++ toString count ++ ", expected struct KeyRecord with 2 elements"
  | .missingField name => "missing field `" ++ name ++ "`"
  | .duplicateField name => "duplicate field `" ++ name ++ "`"
  | .notKey fault =>
    "invalid key (expected " ++ toString (2 * keyLength) ++ " hex characters): " ++ fault.message

/-- A cause, and the count of bytes that were left where reading stopped. -/
structure Fault where
  cause : Cause
  left : Nat
  deriving DecidableEq

/-- The line and the column reached after a byte sequence. -/
def lineAndColumn (s : Bytes) : Nat × Nat :=
  s.foldl (fun (p : Nat × Nat) (b : UInt8) => if b = 0x0A then (p.1 + 1, 0) else (p.1, p.2 + 1))
    (1, 0)

/-- Why and where a document is refused. -/
structure Refusal where
  cause : Cause
  line : Nat
  column : Nat
  deriving DecidableEq

/-- The refusal for a fault met in a document. -/
def Fault.refusal (document : Bytes) (f : Fault) : Refusal :=
  let place := lineAndColumn (document.take (document.length - f.left))
  ⟨f.cause, place.1, place.2⟩

/-- The text of a refusal. -/
def Refusal.message (r : Refusal) : String :=
  r.cause.message ++ " at line " ++ toString r.line ++ " column " ++ toString r.column

/-- Stops in front of the bytes that are left. -/
def stopAt {α : Type} (cause : Cause) (rest : Bytes) : Except Fault α := .error ⟨cause, rest.length⟩

/-- Stops at the first of the bytes that are left, which is the wrong one (or missing). -/
def stopPast {α : Type} (cause : Cause) (rest : Bytes) : Except Fault α :=
  .error ⟨cause, rest.length - 1⟩

/-- The byte separates tokens. -/
def isSpace (b : UInt8) : Bool := b = 0x20 || b = 0x0A || b = 0x09 || b = 0x0D

/-- The bytes after the space in front of a token. -/
def skipSpace (s : Bytes) : Bytes := s.dropWhile isSpace

/-- Reads the remaining letters of a word. -/
def readWord : Bytes → Bytes → Except Fault Bytes
  | [], s => .ok s
  | _ :: _, [] => stopAt .endInValue []
  | e :: es, b :: r => if b = e then readWord es r else stopAt .wordBroken r

end DeviceKeys.Json
