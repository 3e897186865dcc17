import DeviceKeys.Decimal.Quantity

/-! # Calculations with doubles

The operations take quantities that are doubles and give the double nearest to the exact result
(`Quantity.settled`). The functions that have no exact result are computed in whole numbers scaled by
2^128, which is far finer than a double.
-/

namespace DeviceKeys.Quantity

/-! ## 1. Values -/

/-- The fraction in lowest terms where its denominator divides it. -/
def reduced (negative : Bool) (n d : Nat) : Quantity :=
  if d ≠ 1 && n % d = 0 then finite negative (n / d) 1 else finite negative n d

/-- The double nearest to a fraction with a sign. A zero has none. -/
def settled (v : Int) (d : Nat) : Quantity :=
  if v = 0 then finite false 0 1
  else if d = 1 && v.natAbs < pow2 53 then finite (decide (v < 0)) v.natAbs 1
  else
    match Binary64.ofRatio v.natAbs d with
    | some x => reduced (decide (v < 0)) x.toRatio.1 x.toRatio.2
    | none => infinite (decide (v < 0))

/-- A whole number. -/
def ofInt (v : Int) : Quantity := settled v 1

/-- A natural number. -/
def ofNat (n : Nat) : Quantity := settled n 1

/-- The numerator with the sign. -/
def signed (negative : Bool) (n : Nat) : Int := if negative then -(n : Int) else n

/-- The quantity is zero. -/
def isZero : Quantity → Bool
  | finite _ n _ => n = 0
  | _ => false

/-- The quantity without what is behind its point. -/
def truncated : Quantity → Quantity
  | finite negative n d => ofInt (signed negative (n / d))
  | q => q

/-- The whole number in a quantity, brought into the range of 64 bits. -/
def toInt : Quantity → Int
  | finite negative n d =>
    let v := signed negative (n / d)
    max (-(pow2 63 : Int)) (min v (pow2 63 - 1))
  | infinite true => -(pow2 63 : Int)
  | infinite false => pow2 63 - 1
  | undefined _ => -(pow2 63 : Int)

/-- The whole number that a quantity is. -/
def whole? : Quantity → Option Int
  | finite negative n d => if n % d = 0 then some (signed negative (n / d)) else none
  | _ => none

/-- Compares quantities; none for what is no number. -/
def compare? : Quantity → Quantity → Option Ordering
  | undefined _, _ => none
  | _, undefined _ => none
  | infinite a, infinite b => some (compare (!a).toNat (!b).toNat)
  | infinite a, _ => some (if a then .lt else .gt)
  | _, infinite b => some (if b then .gt else .lt)
  | finite s n d, finite t m e => some (compare (signed s n * e) (signed t m * d))

/-! ## 2. Exact operations -/

/-- The quantity with the other sign. -/
def negated : Quantity → Quantity
  | finite s n d => finite (!s && n ≠ 0) n d
  | infinite s => infinite !s
  | undefined s => undefined !s

/-- The sum. -/
def sum : Quantity → Quantity → Quantity
  | undefined s, _ => undefined s
  | _, undefined s => undefined s
  | infinite a, infinite b => if a = b then infinite a else undefined true
  | infinite a, _ => infinite a
  | _, infinite b => infinite b
  | finite s n d, finite t m e => settled (signed s n * e + signed t m * d) (d * e)

/-- The difference. -/
def difference (a b : Quantity) : Quantity := sum a (negated b)

/-- The product. -/
def product : Quantity → Quantity → Quantity
  | undefined s, _ => undefined s
  | _, undefined s => undefined s
  | infinite a, q => if q.isZero then undefined true else infinite (a != q.isNegative)
  | q, infinite b => if q.isZero then undefined true else infinite (b != q.isNegative)
  | finite s n d, finite t m e => settled (signed (s != t) (n * m)) (d * e)

/-- The quotient. -/
def quotient : Quantity → Quantity → Quantity
  | undefined s, _ => undefined s
  | _, undefined s => undefined s
  | infinite _, infinite _ => undefined true
  | infinite a, q => infinite (a != q.isNegative)
  | _, infinite _ => finite false 0 1
  | finite s n d, finite t m e =>
    if m = 0 then (if n = 0 then undefined true else infinite (s != t))
    else settled (signed (s != t) (n * e)) (d * m)

/-- What is left by a division without a part behind the point. -/
def remainder : Quantity → Quantity → Quantity
  | finite s n d, finite _ m e =>
    if m = 0 then undefined true
    else
      let a := n * e
      let b := m * d
      settled (signed s (a % b)) (d * e)
  | finite s n d, infinite _ => finite s n d
  | _, _ => undefined true

/-! ## 3. Functions -/

/-- The count of bits behind the point in a scaled number. -/
def scaleBits : Nat := 128

/-- One, scaled. -/
def unit : Int := pow2 scaleBits

/-- A fraction, scaled. -/
def scaledOf (v : Int) (d : Nat) : Int := v * unit / d

/-- The double nearest to a scaled number. -/
def ofScaled (v : Int) : Quantity := settled v (pow2 scaleBits)

/-- The product of scaled numbers. -/
def timesScaled (a b : Int) : Int := a * b / unit

/-- The sum of a series of which each term is made from the one before it. -/
def series (next : Nat → Int → Int) : Nat → Nat → Int → Int
  | 0, _, _ => 0
  | k + 1, i, term => if term = 0 then 0 else term + series next k (i + 1) (next i term)

/-- The sum of `x ^ (2 * i + 1) / (2 * i + 1)`, the signs alike or in turn. -/
def oddSeries (alternating : Bool) (x : Int) : Int :=
  let square := timesScaled x x
  let rec go : Nat → Nat → Int → Int
    | 0, _, _ => 0
    | k + 1, i, power =>
      if power = 0 then 0
      else
        let term := power / (2 * i + 1)
        let term := if alternating && i % 2 = 1 then -term else term
        term + go k (i + 1) (timesScaled power square)
  go 400 0 x

/-- The natural logarithm of two, scaled. -/
def logTwo : Int := 2 * oddSeries false (unit / 3)

/-- The angle of half a turn, scaled. -/
def halfTurn : Int := 16 * oddSeries true (unit / 5) - 4 * oddSeries true (unit / 239)

/-- The power of Euler's number for a scaled exponent, as a scaled number times a power of two. -/
def expScaled (x : Int) : Int × Int :=
  let k := (x + logTwo / 2) / logTwo
  let r := x - k * logTwo
  (series (fun i term => timesScaled term r / (i + 1)) 100 0 unit, k)

/-- A scaled number times a power of two. -/
def ofExp (x : Int × Int) : Quantity :=
  if x.2 < -1200 then finite false 0 1
  else if 1200 < x.2 then infinite false
  else if 0 ≤ x.2 then settled (x.1 * pow2 x.2.toNat) (pow2 scaleBits)
  else settled x.1 (pow2 (scaleBits + (-x.2).toNat))

/-- The natural logarithm of a positive fraction, scaled. -/
def logScaled (n d : Nat) : Int :=
  let e : Int := (n.log2 : Int) - (d.log2 : Int)
  let (p, q) := Binary64.scaled n d e
  let ratio := ((p : Int) - q) * unit / (p + q)
  e * logTwo + 2 * oddSeries false ratio

/-- The power of Euler's number. -/
def exp : Quantity → Quantity
  | finite s n d =>
    if n / d < 2000 then ofExp (expScaled (scaledOf (signed s n) d))
    else if s then finite false 0 1 else infinite false
  | infinite s => if s then finite false 0 1 else infinite false
  | q => q

/-- The natural logarithm. -/
def log : Quantity → Quantity
  | finite s n d =>
    if n = 0 then infinite true
    else if s then undefined true
    else ofScaled (logScaled n d)
  | infinite s => if s then undefined true else infinite false
  | q => q

/-- The square root of a natural number without the part behind the point. -/
def naturalRoot (n : Nat) : Nat :=
  let rec go : Nat → Nat → Nat
    | 0, x => x
    | k + 1, x =>
      let y := (x + n / x) / 2
      if y < x then go k y else x
  if n = 0 then 0 else go (n.log2 + 8) (pow2 (n.log2 / 2 + 1))

/-- The square root. -/
def squareRoot : Quantity → Quantity
  | finite s n d =>
    if n = 0 then finite false 0 1
    else if s then undefined true
    else
      let shift := 2 * (n.log2 + d.log2 + 128)
      settled (naturalRoot (n * pow2 shift / d)) (pow2 (shift / 2))
  | infinite s => if s then undefined true else infinite false
  | q => q
/-- The power of a quantity to another. -/
def power (a b : Quantity) : Quantity :=
  match a, b with
  | _, finite _ 0 _ => finite false 1 1
  | undefined s, _ => undefined s
  | _, undefined s => undefined s
  | finite s n d, finite t m e =>
    if m % e = 0 && m / e ≤ 1100 then
      let k := m / e
      let sign := s && k % 2 = 1
      if t then
        if n = 0 then infinite sign else settled (signed sign (d.pow k)) (n.pow k)
      else settled (signed sign (n.pow k)) (d.pow k)
    else if n = 0 then (if t then infinite false else finite false 0 1)
    else if s && m % e ≠ 0 then undefined true
    else
      let x := logScaled n d * signed t m / e
      let far : Int × Int := (unit, if x < 0 then -9999 else 9999)
      let r := ofExp (if x.natAbs / unit.natAbs < 2000 then expScaled x else far)
      if s && (m / e) % 2 = 1 then negated r else r
  | infinite s, q =>
    if q.isNegative then finite false 0 1 else infinite (s && (q.whole?).any fun v => v % 2 ≠ 0)
  | finite _ n d, infinite t =>
    if n = d then finite false 1 1
    else if (n < d) = t then infinite false else finite false 0 1

/-- The sine and the cosine of a scaled angle. -/
def sineCosine (x : Int) : Int × Int :=
  let turns := (x + halfTurn) / (2 * halfTurn)
  let r := x - turns * (2 * halfTurn)
  let square := timesScaled r r
  (series (fun i term => -(timesScaled term square) / ((2 * i + 2) * (2 * i + 3))) 100 0 r,
   series (fun i term => -(timesScaled term square) / ((2 * i + 1) * (2 * i + 2))) 100 0 unit)

/-- The sine of an angle. -/
def sine : Quantity → Quantity
  | finite s n d => ofScaled (sineCosine (scaledOf (signed s n) d)).1
  | _ => undefined true

/-- The cosine of an angle. -/
def cosine : Quantity → Quantity
  | finite s n d => ofScaled (sineCosine (scaledOf (signed s n) d)).2
  | _ => undefined true

/-- The angle of which a scaled number up to one is the tangent. -/
def angleOf (t : Int) : Int :=
  let halved (t : Int) : Int :=
    let root : Int := naturalRoot ((unit * unit + t * t).toNat)
    t * unit / (unit + root)
  4 * oddSeries true (halved (halved t))

/-- The angle of a point that is given by its height and its width. -/
def angle : Quantity → Quantity → Quantity
  | finite s n d, finite t m e =>
    let y := n * e
    let x := m * d
    let first : Int :=
      if y = 0 then 0
      else if y ≤ x then angleOf (scaledOf y x)
      else halfTurn / 2 - angleOf (scaledOf x y)
    let up := if t then halfTurn - first else first
    ofScaled (if s then -up else up)
  | _, _ => undefined true

end DeviceKeys.Quantity
