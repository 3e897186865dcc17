import DeviceKeys.Json.Fault

/-! # JSON numbers

A key store holds no number, so a number is read to name it in a message (`Json.readNumber`) or
passed over (`Json.skipNumber`). Both accept the grammar of JSON: no leading zeros, digits after a
point, digits after an exponent mark.

* An integer of 64 bits stays exact (`Found.integer`); every other number becomes a `Binary64`.
* The significand keeps as many digits as fit 64 bits, and further ones only shift the exponent.
* The power of ten is applied by one rounded product or quotient (`scale`).
-/

namespace DeviceKeys.Json

/-- The byte is a decimal digit. -/
def isDigit (b : UInt8) : Bool := 0x30 ≤ b && b ≤ 0x39

/-- The value of a decimal digit. -/
def digitValue (b : UInt8) : Nat := b.toNat - 0x30

/-- The byte marks an exponent. -/
def isExponentMark (b : UInt8) : Bool := b = 0x65 || b = 0x45

/-- The bytes after the digits in front. -/
def skipDigits (s : Bytes) : Bytes := s.dropWhile isDigit

/-- The greatest integer of 64 bits. -/
def maxInteger : Nat := 18446744073709551615

/-- The greatest integer that fits 64 bits behind a minus. -/
def maxNegative : Nat := 9223372036854775808

/-- The greatest exponent that is kept exactly. -/
def maxExponent : Nat := 2147483647

/-- Appends digits to a significand while it fits 64 bits; gives the significand and the count of
    digits taken. -/
def pushDigits (significand : Nat) : Bytes → Nat × Nat
  | [] => (significand, 0)
  | d :: ds =>
    let next := significand * 10 + digitValue d
    if next ≤ maxInteger then
      let (s, k) := pushDigits next ds
      (s, k + 1)
    else (significand, 0)

/-- Multiplies or divides by a power of ten; none if the result is too large. -/
def scale : Nat → Binary64 → Int → Option Binary64
  | 0, _, _ => some Binary64.zero
  | k + 1, x, e =>
    if e.natAbs ≤ 308 then
      if 0 ≤ e then x.mul? (Binary64.tenPow e.natAbs)
      else some (x.div (Binary64.tenPow e.natAbs))
    else if x.mantissa = 0 then some x
    else if 0 ≤ e then none
    else scale k (x.div (Binary64.tenPow 308)) (e + 308)

/-- A number with a fraction or an exponent. -/
def floating (negative : Bool) (significand : Nat) (exponent : Int) (rest : Bytes) :
    Except Fault (Found × Bytes) :=
  match scale 4 ((Binary64.ofRatio significand 1).getD Binary64.zero) exponent with
  | none => stopAt .numberTooLarge rest
  | some x => .ok (.floating negative x, rest)

/-- Takes the digits of an exponent while it stays within bounds; gives it, and the bytes after the
    digit that broke them or after the last digit. -/
def pushExponent (exponent : Nat) : Bytes → Except Bytes (Nat × Bytes)
  | [] => .ok (exponent, [])
  | b :: r =>
    if isDigit b then
      let next := exponent * 10 + digitValue b
      if next ≤ maxExponent then pushExponent next r else .error r
    else .ok (exponent, b :: r)

/-- The bytes after the sign of an exponent, and whether it is negative. -/
def exponentSign : Bytes → Bool × Bytes
  | 0x2B :: r => (false, r)
  | 0x2D :: r => (true, r)
  | r => (false, r)

/-- Reads an exponent from the byte after its mark. -/
def readExponent (negative : Bool) (significand : Nat) (start : Int) (s : Bytes) :
    Except Fault (Found × Bytes) :=
  let (down, r) := exponentSign s
  match r with
  | [] => stopAt .endInValue []
  | b :: r' =>
    if isDigit b then
      match pushExponent (digitValue b) r' with
      | .ok (e, rest) =>
        floating negative significand (if down then start - e else start + e) rest
      | .error rest =>
        if significand ≠ 0 ∧ down = false then stopAt .numberTooLarge rest
        else .ok (.floating negative Binary64.zero, skipDigits rest)
    else stopAt .numberMalformed r'

/-- Reads what follows the digits of a fraction. -/
def readAfterFraction (negative : Bool) (significand : Nat) (exponent : Int) (s : Bytes) :
    Except Fault (Found × Bytes) :=
  match s with
  | b :: r =>
    if isExponentMark b then readExponent negative significand exponent r
    else floating negative significand exponent s
  | [] => floating negative significand exponent s

/-- Reads a fraction from the byte after the point. -/
def readFraction (negative : Bool) (significand : Nat) (exponent : Int) (s : Bytes) :
    Except Fault (Found × Bytes) :=
  let digits := s.takeWhile isDigit
  let rest := skipDigits s
  if digits.isEmpty then
    match rest with
    | [] => stopPast .endInValue []
    | _ :: _ => stopPast .numberMalformed rest
  else
    let (sig, k) := pushDigits significand digits
    readAfterFraction negative sig (exponent - k) rest

/-- The number of an integer without further digits: exact where it fits 64 bits with its sign. -/
def integer (negative : Bool) (significand : Nat) (rest : Bytes) : Except Fault (Found × Bytes) :=
  if negative = false then .ok (.integer significand, rest)
  else if 0 < significand ∧ significand ≤ maxNegative then
    .ok (.integer (-(significand : Int)), rest)
  else floating true significand 0 rest

/-- Reads what follows the digits of an integer, of which `dropped` did not fit. -/
def readAfterInteger (negative : Bool) (significand dropped : Nat) (s : Bytes) :
    Except Fault (Found × Bytes) :=
  let plain : Except Fault (Found × Bytes) :=
    if dropped = 0 then integer negative significand s
    else floating negative significand dropped s
  match s with
  | b :: r =>
    if b = 0x2E then readFraction negative significand dropped r
    else if isExponentMark b then readExponent negative significand dropped r
    else plain
  | [] => plain

/-- Reads a number from its first digit. -/
def readNumber (negative : Bool) (s : Bytes) : Except Fault (Found × Bytes) :=
  match s with
  | [] => stopAt .endInValue []
  | b :: r =>
    if b = 0x30 then
      match r with
      | d :: _ => if isDigit d then stopPast .numberMalformed r else readAfterInteger negative 0 0 r
      | [] => readAfterInteger negative 0 0 r
    else if isDigit b then
      let digits := s.takeWhile isDigit
      let (sig, k) := pushDigits 0 digits
      readAfterInteger negative sig (digits.length - k) (skipDigits s)
    else stopAt .numberMalformed r

/-- Passes over an exponent from the byte after its mark. -/
def skipExponent (s : Bytes) : Except Fault Bytes :=
  match (exponentSign s).2 with
  | [] => stopAt .numberMalformed []
  | b :: r => if isDigit b then .ok (skipDigits r) else stopAt .numberMalformed r

/-- Passes over a fraction from the byte after the point. -/
def skipFraction (s : Bytes) : Except Fault Bytes :=
  let rest := skipDigits s
  if rest.length = s.length then stopPast .numberMalformed rest
  else
    match rest with
    | b :: r => if isExponentMark b then skipExponent r else .ok rest
    | [] => .ok rest

/-- Passes over what follows the digits of an integer. -/
def skipAfterInteger (s : Bytes) : Except Fault Bytes :=
  match s with
  | b :: r =>
    if b = 0x2E then skipFraction r
    else if isExponentMark b then skipExponent r
    else .ok s
  | [] => .ok s

/-- Passes over a number from its first digit. -/
def skipNumber (s : Bytes) : Except Fault Bytes :=
  match s with
  | [] => stopAt .numberMalformed []
  | b :: r =>
    if b = 0x30 then
      match r with
      | d :: _ => if isDigit d then stopPast .numberMalformed r else skipAfterInteger r
      | [] => skipAfterInteger r
    else if isDigit b then skipAfterInteger (skipDigits r)
    else stopAt .numberMalformed r

end DeviceKeys.Json
