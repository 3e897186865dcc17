import DeviceKeys.Text.Unprintable
import DeviceKeys.Text.Utf8

/-! # Quoted text in messages

How messages show a text or a character between quotes (`Text.quote`, `Text.quoteChar`): the
surrounding quote and the backslash are escaped, tab, line feed, carriage return and NUL have
letters of their own, and what cannot be shown appears as its number in braces. A byte sequence
(`Text.quoteBytes`) shows the characters in it in that way, and the bytes that belong to none as two
hexadecimal digits.
-/

namespace DeviceKeys.Text

/-- The lowercase hexadecimal digits of a number, without leading zeros. -/
def hexNumber (n : Nat) : String := String.ofList (Nat.toDigits 16 n)

/-- A character inside quotes of the kind `mark`. -/
def escapeChar (mark c : Char) : String :=
  if c = Char.ofNat 0 then "\\0"
  else if c = '\t' then "\\t"
  else if c = '\n' then "\\n"
  else if c = '\r' then "\\r"
  else if c = '\\' then "\\\\"
  else if c = mark then String.ofList ['\\', mark]
  else if isUnprintable c then "\\u\x7b" ++ hexNumber c.toNat ++ "\x7d"
  else c.toString

/-- A text between double quotes. -/
def quote (s : String) : String := "\"" ++ String.join (s.toList.map (escapeChar '"')) ++ "\""

/-- A character between single quotes. -/
def quoteChar (c : Char) : String := "'" ++ escapeChar '\'' c ++ "'"

/-- The two uppercase hexadecimal digits of a byte. -/
def upperHex (b : UInt8) : String :=
  String.ofList [(Nat.digitChar (b.toNat / 16)).toUpper, (Nat.digitChar (b.toNat % 16)).toUpper]

/-- A piece of a byte sequence between double quotes. Both kinds of quotes are escaped here. -/
def escapePiece : Utf8.Piece → String
  | .char c => if c = '\'' then "\\'" else escapeChar '"' c
  | .stray b => "\\x" ++ upperHex b

/-- A byte sequence between double quotes. -/
def quoteBytes (s : Bytes) : String :=
  "\"" ++ String.join ((Utf8.pieces s).map escapePiece) ++ "\""

end DeviceKeys.Text
