import DeviceKeys.Text.Utf8
import DeviceKeys.Text.Quoted

/-! # Device keys

A device key is 32 bytes (`DeviceKey`), and its text is 64 hexadecimal digits.

* `DeviceKey.toHex` writes lowercase digits; `DeviceKey.ofHex` accepts both cases.
* `HexFault` says why a text is no key. Its causes are tried in the order of the constructors:
  an odd count of bytes, then a wrong count, then the first byte that is no digit.
* `DeviceKey.redacted` is the text a key has wherever diagnostics show it.
-/

namespace DeviceKeys

/-- The count of bytes of a key. -/
def keyLength : Nat := 32

/-- A device key. -/
structure DeviceKey where
  bytes : Bytes
  length_eq : bytes.length = keyLength
  deriving DecidableEq

/-! ## 1. Hexadecimal digits -/

/-- The lowercase digit of a number below 16. -/
def hexDigit (n : Nat) : Char :=
  if n < 10 then Char.ofNat (n + '0'.toNat) else Char.ofNat (n - 10 + 'a'.toNat)

/-- The two digits of a byte. -/
def hexPair (b : UInt8) : List Char := [hexDigit (b.toNat / 16), hexDigit (b.toNat % 16)]

/-- The value of a byte that is a hexadecimal digit of either case. -/
def hexValue? (b : UInt8) : Option Nat :=
  let n := b.toNat
  if 0x30 ≤ n ∧ n ≤ 0x39 then some (n - 0x30)
  else if 0x41 ≤ n ∧ n ≤ 0x46 then some (n - 0x41 + 10)
  else if 0x61 ≤ n ∧ n ≤ 0x66 then some (n - 0x61 + 10)
  else none

/-- Why a text is not a key. -/
inductive HexFault where
  | oddLength
  | wrongLength
  | notDigit (byte : UInt8) (index : Nat)
  deriving DecidableEq, Repr

/-- The text of a fault; the offending byte is shown as the character with that number. -/
def HexFault.message : HexFault → String
  | .oddLength => "Odd number of digits"
  | .wrongLength => "Invalid string length"
  | .notDigit byte index =>
    "Invalid character " ++ Text.quoteChar (Char.ofNat byte.toNat) ++ " at position " ++
      toString index

/-- Reads two digits for each byte; `i` is the index of the first digit. -/
def readPairs : Nat → Bytes → Except HexFault Bytes
  | i, a :: b :: rest =>
    match hexValue? a, hexValue? b with
    | none, _ => .error (.notDigit a i)
    | some _, none => .error (.notDigit b (i + 1))
    | some m, some n => (readPairs (i + 2) rest).map (UInt8.ofNat (m * 16 + n) :: ·)
  | _, _ => .ok []

theorem length_of_readPairs : ∀ {i : Nat} {s out : Bytes}, readPairs i s = .ok out →
    out.length = s.length / 2
  | _, [], out, h => by cases h; rfl
  | _, [_], out, h => by cases h; simp
  | i, a :: b :: rest, out, h => by
    cases ha : hexValue? a <;> cases hb : hexValue? b <;> cases hr : readPairs (i + 2) rest <;>
      simp [readPairs, ha, hb, hr, Except.map] at h
    subst h
    simp [length_of_readPairs hr]
    omega

/-! ## 2. Keys as text -/

namespace DeviceKey

/-- The 64 lowercase digits of a key. -/
def hexChars (k : DeviceKey) : List Char := k.bytes.flatMap hexPair

/-- The text of a key. -/
def toHex (k : DeviceKey) : String := String.ofList k.hexChars

/-- The key that the bytes of a text spell. -/
def ofHexBytes (s : Bytes) : Except HexFault DeviceKey :=
  if s.length % 2 ≠ 0 then .error .oddLength
  else if hs : s.length / 2 ≠ keyLength then .error .wrongLength
  else
    match h : readPairs 0 s with
    | .error e => .error e
    | .ok out => .ok ⟨out, (length_of_readPairs h).trans (Classical.not_not.1 hs)⟩

/-- The key that a text spells. -/
def ofHex (s : String) : Except HexFault DeviceKey := ofHexBytes (Utf8.ofString s)

/-- What diagnostics show in place of a key. -/
def redacted (_ : DeviceKey) : String := "DeviceKey([REDACTED])"

end DeviceKey

end DeviceKeys
