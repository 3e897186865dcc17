import DeviceKeys.Key

/-! # JSON strings, written

`Json.quoted` puts a text between double quotes. The double quote, the backslash and the characters
below U+0020 are escaped: backspace, tab, line feed, form feed and carriage return by a letter,
the others by four lowercase hexadecimal digits. Every other character stands for itself.
-/

namespace DeviceKeys.Json

/-- A character inside a JSON string. -/
def escaped (c : Char) : List Char :=
  if c = '"' then ['\\', '"']
  else if c = '\\' then ['\\', '\\']
  else if c.toNat = 0x08 then ['\\', 'b']
  else if c = '\t' then ['\\', 't']
  else if c = '\n' then ['\\', 'n']
  else if c.toNat = 0x0C then ['\\', 'f']
  else if c = '\r' then ['\\', 'r']
  else if c.toNat < 0x20 then
    ['\\', 'u', '0', '0', hexDigit (c.toNat / 16), hexDigit (c.toNat % 16)]
  else [c]

/-- A text as a JSON string. -/
def quoted (s : String) : List Char := '"' :: s.toList.flatMap escaped ++ ['"']

end DeviceKeys.Json
