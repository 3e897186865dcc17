import DeviceKeys.Decimal.Shortest

/-! # Decimal notations

`Quantity` is a number to be written: a fraction with a sign, or one that is no number or beyond all
numbers. The notations round exactly, a tie to the even digit.

* `Quantity.fixed` writes a count of digits behind the point.
* `Quantity.scientific` writes one digit in front of the point and a power of ten.
* `Quantity.general` takes the shorter of the two for a count of digits.

`Quantity.read?` reads a number in front of a text.
-/

namespace DeviceKeys

/-- A number to be written. -/
inductive Quantity where
  | finite (negative : Bool) (num den : Nat)
  | infinite (negative : Bool)
  | undefined (negative : Bool)
  deriving DecidableEq, Repr

namespace Quantity

/-! ## 1. Writing -/

/-- The digits of a number, at least so many. -/
def digitsOf (least n : Nat) : List Char :=
  let ds := Nat.toDigits 10 n
  List.replicate (least - ds.length) '0' ++ ds

/-- Digits with a point in front of the last ones. -/
def pointed (places : Nat) (point : Bool) (ds : List Char) : List Char :=
  let front := ds.take (ds.length - places)
  if places = 0 then (if point then front ++ ['.'] else front)
  else front ++ '.' :: ds.drop (ds.length - places)

/-- The fraction with a count of digits behind the point. -/
def fixed (places : Nat) (point : Bool) (n d : Nat) : List Char :=
  pointed places point (digitsOf (places + 1) (roundDiv (n * pow10 places) d))

/-- The place of the leading digit of a positive fraction. -/
def leading (n d : Nat) : Int :=
  let guess : Int := ((n.log2 : Int) - (d.log2 : Int)) * 1233 / 4096 + 2
  Binary64.leadingPlace n d 6 guess

/-- The leading digits of a positive fraction, rounded, and the place of the first of them. -/
def leadingDigits (places : Nat) (n d : Nat) : Nat × Int :=
  let e := leading n d
  let shift := (places : Int) - e
  let m :=
    if 0 ≤ shift then roundDiv (n * pow10 shift.toNat) d
    else roundDiv n (d * pow10 (-shift).toNat)
  if m = pow10 (places + 1) then (pow10 places, e + 1) else (m, e)

/-- The text of a power of ten: a sign and two digits or more. -/
def exponentText (e : Int) : List Char :=
  (if e < 0 then '-' else '+') :: digitsOf 2 e.natAbs

/-- The leading digits of a fraction and the place of the first of them; zero has the place 0. -/
def split (places n d : Nat) : Nat × Int :=
  if n = 0 then (0, 0) else leadingDigits places n d

/-- The fraction with one digit in front of the point and a power of ten. -/
def scientific (places : Nat) (point : Bool) (n d : Nat) : List Char :=
  let (m, e) := split places n d
  pointed places point (digitsOf (places + 1) m) ++ 'e' :: exponentText e

/-- A text with a point, without the zeros at its end. -/
def trimmed (s : List Char) : List Char :=
  if s.contains '.' then
    let s := s.reverse.dropWhile (· = '0')
    (if s.head? = some '.' then s.drop 1 else s).reverse
  else s

/-- The fraction with a count of digits, in the notation that suits it. All zeros are kept if
    `full` says so. -/
def general (precision : Nat) (full : Bool) (n d : Nat) : List Char :=
  let precision := max precision 1
  let (m, e) := split (precision - 1) n d
  if -4 ≤ e ∧ e < precision then
    let s := fixed ((precision : Int) - 1 - e).toNat full n d
    if full then s else trimmed s
  else
    let s := pointed (precision - 1) full (digitsOf precision m)
    (if full then s else trimmed s) ++ 'e' :: exponentText e

/-- The digits of a mantissa in base sixteen without the zeros at its end. -/
def hexTail : Nat → Nat → List Char
  | 0, _ => []
  | k + 1, r =>
    if r = 0 then []
    else (Nat.toDigits 16 (r / 16 ^ k)) ++ hexTail k (r % 16 ^ k)

/-- The double nearest to a fraction, in base sixteen and a power of two. -/
def hexadecimal (n d : Nat) : List Char :=
  match Binary64.ofRatio n d with
  | none => "inf".toList
  | some x =>
    if x.mantissa = 0 then "0x0p+0".toList
    else
      let top := x.mantissa.log2
      let rest := (x.mantissa - Nat.pow 2 top) * Nat.pow 2 (52 - top)
      let e := x.exponent + top
      let tail := hexTail 13 rest
      let tail := if tail.isEmpty then [] else '.' :: tail
      "0x1".toList ++ tail ++ ['p', if e < 0 then '-' else '+'] ++ Nat.toDigits 10 e.natAbs

/-- The quantity is below zero. -/
def isNegative : Quantity → Bool
  | finite negative _ _ => negative
  | infinite negative => negative
  | undefined negative => negative

/-! ## 2. Reading -/

/-- The digits in front of a text. -/
def takeDigits (s : List Char) : List Char := s.takeWhile Char.isDigit

/-- The number that digits spell. -/
def ofDigits (ds : List Char) : Nat := ds.foldl (fun n c => n * 10 + (c.toNat - '0'.toNat)) 0

/-- The power of ten in front of a text, and what stands behind it. -/
def readExponent (s : List Char) : Int × List Char :=
  match s with
  | e :: r =>
    if e = 'e' || e = 'E' then
      let (negative, r) :=
        match r with
        | '-' :: r => (true, r)
        | '+' :: r => (false, r)
        | r => (false, r)
      let ds := takeDigits r
      if ds.isEmpty then (0, s)
      else
        let n := min (ofDigits ds) 5000
        (if negative then -(n : Int) else n, r.drop ds.length)
    else (0, s)
  | [] => (0, s)

/-- The unsigned decimal number in front of a text as a fraction, and what stands behind it. -/
def readDecimal? (s : List Char) : Option (Nat × Nat × List Char) :=
  let whole := takeDigits s
  let r := s.drop whole.length
  let (part, r) : List Char × List Char :=
    match r with
    | '.' :: r' =>
      let ds := takeDigits r'
      if whole.isEmpty && ds.isEmpty then ([], r) else (ds, r'.drop ds.length)
    | r => ([], r)
  if whole.isEmpty && part.isEmpty then none
  else
    let (e, r) := readExponent r
    let n := ofDigits (whole ++ part)
    let e := e - part.length
    if 0 ≤ e then some (n * pow10 e.toNat, 1, r) else some (n, pow10 (-e).toNat, r)

/-- The value of a digit in base sixteen. -/
def hexDigit? (c : Char) : Option Nat :=
  if c.isDigit then some (c.toNat - '0'.toNat)
  else if 'a' ≤ c ∧ c ≤ 'f' then some (c.toNat - 'a'.toNat + 10)
  else if 'A' ≤ c ∧ c ≤ 'F' then some (c.toNat - 'A'.toNat + 10)
  else none

/-- The number that digits in base sixteen spell. -/
def ofHexDigits (ds : List Char) : Nat := ds.foldl (fun n c => n * 16 + (hexDigit? c).getD 0) 0

/-- The word stands in front of the text, whatever the case of its letters. -/
def startsWith (word : String) (s : List Char) : Bool :=
  word.toList = (s.take word.length).map Char.toLower

/-- The unsigned number in front of a text: in base ten, in base sixteen behind `0x`, or a word for
    a value that is none. `negative` is its sign. -/
def readUnsigned? (negative : Bool) (s : List Char) : Option (Quantity × List Char) :=
  if startsWith "infinity" s then some (infinite negative, s.drop 8)
  else if startsWith "inf" s then some (infinite negative, s.drop 3)
  else if startsWith "nan" s then some (undefined negative, s.drop 3)
  else
    match s with
    | '0' :: x :: c :: r =>
      if (x = 'x' || x = 'X') && (hexDigit? c).isSome then
        let ds := (c :: r).takeWhile fun c => (hexDigit? c).isSome
        some (finite negative (ofHexDigits ds) 1, (c :: r).drop ds.length)
      else (readDecimal? s).map fun (n, d, r) => (finite negative n d, r)
    | s => (readDecimal? s).map fun (n, d, r) => (finite negative n d, r)

/-- The number in front of a text, with space and a sign before it, and what stands behind it. -/
def read? (s : List Char) : Option (Quantity × List Char) :=
  let s := s.dropWhile fun c => c = ' ' || ('\t'.toNat ≤ c.toNat && c.toNat ≤ '\r'.toNat)
  match s with
  | '-' :: r => readUnsigned? true r
  | '+' :: r => readUnsigned? false r
  | s => readUnsigned? false s

/-- The double nearest to a quantity. -/
def rounded : Quantity → Quantity
  | finite negative n d =>
    match Binary64.ofRatio n d with
    | some x => finite negative x.toRatio.1 x.toRatio.2
    | none => infinite negative
  | q => q

end Quantity

end DeviceKeys
