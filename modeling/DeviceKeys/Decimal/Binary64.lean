/-! # Numbers of 53 bits

`Binary64` is a non-negative double-precision number: a mantissa below 2^53 and a power of two from
2^-1074 to 2^971. `Binary64.ofRatio` rounds a fraction to the nearest one, an exact tie to the even
mantissa, and refuses a fraction that is too large. Products and quotients round the exact result
(`mul?`, `div`).
-/

namespace DeviceKeys

/-- The number `mantissa * 2 ^ exponent`. -/
structure Binary64 where
  mantissa : Nat
  exponent : Int
  deriving DecidableEq, Repr

/-- A power of two. -/
def pow2 (k : Nat) : Nat := Nat.pow 2 k

/-- A power of ten. -/
def pow10 (k : Nat) : Nat := Nat.pow 10 k

/-- The quotient rounded to the nearest integer, a tie to the even one. -/
def roundDiv (n d : Nat) : Nat :=
  let q := n / d
  let r := n % d
  if 2 * r < d then q
  else if d < 2 * r then q + 1
  else if q % 2 = 0 then q
  else q + 1

namespace Binary64

/-- The number zero. -/
def zero : Binary64 := ⟨0, -1074⟩

/-- The fraction `n / d` divided by `2 ^ e`. -/
def scaled (n d : Nat) (e : Int) : Nat × Nat :=
  if 0 ≤ e then (n, d * pow2 e.toNat) else (n * pow2 (-e).toNat, d)

/-- The power of two that leaves a mantissa of 53 bits, and none below the least. -/
def exponentFor (n d : Nat) : Int :=
  let guess : Int := (n.log2 : Int) - (d.log2 : Int) - 53
  let (p, q) := scaled n d guess
  max (if pow2 53 ≤ p / q then guess + 1 else guess) (-1074)

/-- The number nearest to `n / d`, or none when that is too large. -/
def ofRatio (n d : Nat) : Option Binary64 :=
  if n = 0 then some zero
  else
    let e := exponentFor n d
    let (p, q) := scaled n d e
    let m := roundDiv p q
    let x : Binary64 := if m = pow2 53 then ⟨pow2 52, e + 1⟩ else ⟨m, e⟩
    if 971 < x.exponent then none else some x

/-- The number as a fraction. -/
def toRatio (x : Binary64) : Nat × Nat :=
  if 0 ≤ x.exponent then (x.mantissa * pow2 x.exponent.toNat, 1)
  else (x.mantissa, pow2 (-x.exponent).toNat)

/-- The rounded product, or none when it is too large. -/
def mul? (x y : Binary64) : Option Binary64 :=
  ofRatio (x.toRatio.1 * y.toRatio.1) (x.toRatio.2 * y.toRatio.2)

/-- The rounded quotient. -/
def div (x y : Binary64) : Binary64 :=
  (ofRatio (x.toRatio.1 * y.toRatio.2) (x.toRatio.2 * y.toRatio.1)).getD zero

/-- The power of ten nearest to `10 ^ k`, for `k` up to 308. -/
def tenPow (k : Nat) : Binary64 := (ofRatio (pow10 k) 1).getD zero

end Binary64

end DeviceKeys
