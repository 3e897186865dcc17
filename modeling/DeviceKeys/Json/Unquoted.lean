import DeviceKeys.Json.Fault

/-! # JSON strings, read

`Json.readString` reads the bytes after the opening quote up to the closing one and gives the
characters. It runs one machine byte by byte (`StringState`), which gives the bytes that the string
stands for:

* a backslash starts an escape; `\u` takes four bytes, and a high surrogate must be followed by the
  escape of a low one;
* a byte below 0x20 is refused, and so is an escape no rule knows, where it stands.

Bytes that are not UTF-8 are refused at the closing quote. The place is told from there: as many
bytes in front of the quote as there are from the first wrong byte to the end of the string, where
an escape counts for the bytes it stands for.

`Json.skipString` passes over a string whose value is not wanted. It checks the form of the escapes
and the absence of control characters, and nothing else.
-/

namespace DeviceKeys.Json

/-- Where the reader of a string stands: between characters, after a backslash, within the four
    digits of an escape (after a high surrogate or not), or in front of the backslash or the letter
    that must follow a high surrogate. -/
inductive StringState where
  | plain
  | escape
  | digits (high : Option Nat) (count : Nat) (value : Option Nat)
  | slash (high : Nat)
  | letter (high : Nat)
  deriving DecidableEq

/-- The character of an escape of one letter. -/
def simpleEscape? (b : UInt8) : Option Char :=
  if b = 0x22 then some '"'
  else if b = 0x5C then some '\\'
  else if b = 0x2F then some '/'
  else if b = 0x62 then some (Char.ofNat 0x08)
  else if b = 0x66 then some (Char.ofNat 0x0C)
  else if b = 0x6E then some '\n'
  else if b = 0x72 then some '\r'
  else if b = 0x74 then some '\t'
  else none

/-- The number is a high surrogate. -/
def isHighSurrogate (n : Nat) : Bool := 0xD800 ≤ n && n ≤ 0xDBFF

/-- The number is a low surrogate. -/
def isLowSurrogate (n : Nat) : Bool := 0xDC00 ≤ n && n ≤ 0xDFFF

/-- The character that two surrogates stand for. -/
def ofSurrogates (high low : Nat) : Char :=
  Char.ofNat (0x10000 + (high - 0xD800) * 0x400 + (low - 0xDC00))

/-- One more digit of an escape; once a byte is no digit the value stays unknown. -/
def pushDigit (value : Option Nat) (b : UInt8) : Option Nat :=
  match value, hexValue? b with
  | some v, some d => some (v * 16 + d)
  | _, _ => none

/-- The state after an escape of four digits, with the character it completes. -/
def afterDigits : Option Nat → Option Nat → Except Cause (StringState × Option Char)
  | _, none => .error .escapeUnknown
  | none, some n =>
    if isLowSurrogate n then .error .surrogateAlone
    else if isHighSurrogate n then .ok (.slash n, none)
    else .ok (.plain, some (Char.ofNat n))
  | some high, some n =>
    if isLowSurrogate n then .ok (.plain, some (ofSurrogates high n))
    else .error .surrogateAlone

/-- One byte of an escape. -/
def escapeStep : StringState → UInt8 → Except Cause (StringState × Option Char)
  | .plain, _ => .ok (.plain, none)
  | .escape, b =>
    if b = 0x75 then .ok (.digits none 0 (some 0), none)
    else
      match simpleEscape? b with
      | some c => .ok (.plain, some c)
      | none => .error .escapeUnknown
  | .digits high count value, b =>
    if count = 3 then afterDigits high (pushDigit value b)
    else .ok (.digits high (count + 1) (pushDigit value b), none)
  | .slash high, b => if b = 0x5C then .ok (.letter high, none) else .error .escapeUnfinished
  | .letter high, b =>
    if b = 0x75 then .ok (.digits (some high) 0 (some 0), none) else .error .escapeUnfinished

/-- Reads the bytes that a string stands for, up to the closing quote. -/
def readBody : StringState → Bytes → Except Fault (Bytes × Bytes)
  | _, [] => stopAt .endInString []
  | .plain, b :: r =>
    if b = 0x22 then .ok ([], r)
    else if b = 0x5C then readBody .escape r
    else if b < 0x20 then stopAt .controlCharacter r
    else (readBody .plain r).map fun p => (b :: p.1, p.2)
  | st, b :: r =>
    match escapeStep st b with
    | .error cause => stopAt cause r
    | .ok (st', c) => (readBody st' r).map fun p => (Utf8.encode c.toList ++ p.1, p.2)

/-- Reads a string from the byte after its opening quote. -/
def readString (s : Bytes) : Except Fault (String × Bytes) :=
  match readBody .plain s with
  | .error e => .error e
  | .ok (data, rest) =>
    match Utf8.decode data with
    | .ok cs => .ok (String.ofList cs, rest)
    | .error fault => .error ⟨.notUtf8, rest.length + (data.length - fault.index)⟩

/-- Where the passing over a string stands: between bytes, after a backslash, or within the four
    digits of an escape. -/
inductive SkipState where
  | plain
  | escape
  | digits (count : Nat) (valid : Bool)
  deriving DecidableEq

/-- Passes over the bytes up to the closing quote. -/
def skipBody : SkipState → Bytes → Except Fault Bytes
  | _, [] => stopAt .endInString []
  | .plain, b :: r =>
    if b = 0x22 then .ok r
    else if b = 0x5C then skipBody .escape r
    else if b < 0x20 then stopAt .controlCharacter (b :: r)
    else skipBody .plain r
  | .escape, b :: r =>
    if b = 0x75 then skipBody (.digits 0 true) r
    else if (simpleEscape? b).isSome then skipBody .plain r
    else stopAt .escapeUnknown r
  | .digits count valid, b :: r =>
    let valid := valid && (hexValue? b).isSome
    if count = 3 then if valid then skipBody .plain r else stopAt .escapeUnknown r
    else skipBody (.digits (count + 1) valid) r

/-- Passes over a string from the byte after its opening quote. -/
def skipString (s : Bytes) : Except Fault Bytes := skipBody .plain s

end DeviceKeys.Json
