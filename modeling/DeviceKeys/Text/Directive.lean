import DeviceKeys.Decimal.Quantity

/-! # Directives of a format

A directive says how a value is written into a text: `%-5d` writes a whole number to the left of a
field of five characters. `Directive.read?` reads a directive behind its percent sign; the field
width and the precision may be left to arguments (`Size.given`).
-/

namespace DeviceKeys

/-- A width or a precision: absent, a number, or left to an argument. -/
inductive Size where
  | absent
  | number (n : Nat)
  | given
  deriving DecidableEq, Repr

/-- A directive. -/
structure Directive where
  left : Bool
  plus : Bool
  space : Bool
  alternate : Bool
  zero : Bool
  width : Size
  precision : Size
  kind : Char
  deriving DecidableEq, Repr

namespace Directive

/-! ## 1. Reading -/

/-- The character is a flag. -/
def isFlag (c : Char) : Bool := c = '#' || c = '-' || c = '+' || c = ' ' || c = '0'

/-- Reads a width or a precision. -/
def readSize (s : List Char) : Size × List Char :=
  match s with
  | '*' :: r => (.given, r)
  | s =>
    let ds := Quantity.takeDigits s
    (if ds.isEmpty then .absent else .number (Quantity.ofDigits ds), s.drop ds.length)

/-- Reads a directive behind its percent sign, and what stands behind it; none when the letter that
    says the kind is missing. -/
def read? (s : List Char) : Option (Directive × List Char) :=
  let flags := s.takeWhile isFlag
  let (width, r) := readSize (s.drop flags.length)
  let (precision, r) : Size × List Char :=
    match r with
    | '.' :: r =>
      match readSize r with
      | (.absent, r) => (.number 0, r)
      | p => p
    | r => (.absent, r)
  match r with
  | [] => none
  | kind :: r =>
    some (⟨flags.contains '-', flags.contains '+', flags.contains ' ', flags.contains '#',
      flags.contains '0', width, precision, kind⟩, r)

/-- The directive with an argument for its width; a negative one asks for the left. -/
def withWidth (d : Directive) (n : Int) : Directive :=
  { d with width := .number n.natAbs, left := d.left || decide (n < 0) }

/-- The directive with an argument for its precision; a negative one counts as none. -/
def withPrecision (d : Directive) (n : Int) : Directive :=
  { d with precision := if n < 0 then .absent else .number n.toNat }

/-! ## 2. Writing -/

/-- The width of the field. -/
def fieldWidth (d : Directive) : Nat :=
  match d.width with
  | .number n => n
  | _ => 0

/-- The precision, if there is one. -/
def precision? (d : Directive) : Option Nat :=
  match d.precision with
  | .number n => some n
  | _ => none

/-- A text brought to the width of the field. Zeros, if they are asked for and may stand there, go
    between what is in front (a sign or a base) and the digits. -/
def fill (d : Directive) (zeros : Bool) (front body : List Char) : List Char :=
  let gap := d.fieldWidth - (front.length + body.length)
  if d.left then front ++ body ++ List.replicate gap ' '
  else if d.zero && zeros then front ++ List.replicate gap '0' ++ body
  else List.replicate gap ' ' ++ front ++ body

/-- A text in the field, cut to the precision. -/
def text (d : Directive) (s : List Char) : List Char :=
  d.fill false [] (d.precision?.elim s s.take)

/-- A character in the field. -/
def character (d : Directive) (c : Char) : List Char := d.fill false [] [c]

/-- The sign in front of a number. -/
def sign (d : Directive) (negative : Bool) : List Char :=
  if negative then ['-'] else if d.plus then ['+'] else if d.space then [' '] else []

/-- Digits with zeros in front up to the precision; a zero with the precision 0 has no digit. -/
def atLeast (d : Directive) (ds : List Char) : List Char :=
  match d.precision? with
  | none => ds
  | some p => if p = 0 && ds = ['0'] then [] else List.replicate (p - ds.length) '0' ++ ds

/-- A whole number with a sign. -/
def integer (d : Directive) (v : Int) : List Char :=
  d.fill d.precision?.isNone (d.sign (decide (v < 0))) (d.atLeast (Nat.toDigits 10 v.natAbs))

/-- A whole number without a sign, in the base that the kind says. -/
def natural (d : Directive) (v : Nat) : List Char :=
  let upper (s : List Char) := s.map Char.toUpper
  match d.kind with
  | 'o' =>
    let ds := d.atLeast (Nat.toDigits 8 v)
    d.fill d.precision?.isNone []
      (if d.alternate && ds.head? ≠ some '0' then '0' :: ds else ds)
  | 'x' =>
    d.fill d.precision?.isNone (if d.alternate && v ≠ 0 then ['0', 'x'] else [])
      (d.atLeast (Nat.toDigits 16 v))
  | 'X' =>
    d.fill d.precision?.isNone (if d.alternate && v ≠ 0 then ['0', 'X'] else [])
      (d.atLeast (upper (Nat.toDigits 16 v)))
  | _ => d.fill d.precision?.isNone [] (d.atLeast (Nat.toDigits 10 v))

/-- A quantity in the notation that the kind says. -/
def quantity (d : Directive) (q : Quantity) : List Char :=
  let upper (s : List Char) := if d.kind.isUpper then s.map Char.toUpper else s
  let sign := d.sign q.isNegative
  match q with
  | .infinite _ => d.fill false sign (upper "inf".toList)
  | .undefined _ => d.fill false sign (upper "nan".toList)
  | .finite _ n den =>
    let p := d.precision?.getD 6
    match d.kind.toLower with
    | 'f' => d.fill true sign (Quantity.fixed p d.alternate n den)
    | 'e' => d.fill true sign (upper (Quantity.scientific p d.alternate n den))
    | 'a' => d.fill true sign (upper (Quantity.hexadecimal n den))
    | _ => d.fill true sign (upper (Quantity.general p d.alternate n den))

end Directive

end DeviceKeys
