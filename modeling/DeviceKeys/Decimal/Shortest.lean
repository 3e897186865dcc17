import DeviceKeys.Decimal.Binary64

/-! # The shortest decimal of a number

`Binary64.shortest` gives the fewest decimal digits that read back as the number, and of those the
nearest. The reals that round to the number form an interval around it (`Interval`), with its ends
when the mantissa is even; the digits are sought on ever finer decimal grids, where only the two
neighbours of the number need a test.

`Binary64.text` writes the digits: positional, with at least one digit after the point, where the
leading digit stands for 10^-5 to 10^15, and in scientific notation otherwise.
-/

namespace DeviceKeys.Binary64

/-- The reals that round to a number, over a common denominator. -/
structure Interval where
  low : Nat
  value : Nat
  high : Nat
  den : Nat
  closed : Bool

/-- The interval of a number. Below a power of two the neighbour is half as far. -/
def interval (x : Binary64) : Interval :=
  let (n, d) := ({ mantissa := 4 * x.mantissa, exponent := x.exponent - 2 } : Binary64).toRatio
  let unit := ({ mantissa := 1, exponent := x.exponent - 2 } : Binary64).toRatio.1
  let below := if x.mantissa = pow2 52 ∧ -1074 < x.exponent then unit else 2 * unit
  ⟨n - below, n, n + 2 * unit, d, x.mantissa % 2 = 0⟩

/-- The fraction `n / d` lies in the interval. -/
def Interval.contains (i : Interval) (n d : Nat) : Bool :=
  if i.closed then i.low * d ≤ n * i.den && n * i.den ≤ i.high * d
  else i.low * d < n * i.den && n * i.den < i.high * d

/-- A decimal: `digits * 10 ^ exponent`. -/
structure Decimal where
  digits : Nat
  exponent : Int
  deriving DecidableEq, Repr

/-- A decimal as a fraction. -/
def Decimal.toRatio (x : Decimal) : Nat × Nat :=
  if 0 ≤ x.exponent then (x.digits * pow10 x.exponent.toNat, 1)
  else (x.digits, pow10 (-x.exponent).toNat)

/-- The decimal on the grid of `10 ^ e` that lies in the interval and is nearest to its number. -/
def onGrid (i : Interval) (e : Int) : Option Decimal :=
  let m := if 0 ≤ e then i.value / (i.den * pow10 e.toNat) else i.value * pow10 (-e).toNat / i.den
  let lower : Decimal := ⟨m, e⟩
  let upper : Decimal := ⟨m + 1, e⟩
  let inside (x : Decimal) : Bool := x.digits ≠ 0 && i.contains x.toRatio.1 x.toRatio.2
  match inside lower, inside upper with
  | false, false => none
  | true, false => some lower
  | false, true => some upper
  | true, true =>
    let (ln, ld) := lower.toRatio
    let (un, ud) := upper.toRatio
    -- compares twice the number with the sum of its neighbours
    let twice := 2 * i.value * (ld * ud)
    let sum := (ln * ud + un * ld) * i.den
    if twice < sum then some lower
    else if sum < twice then some upper
    else if m % 2 = 0 then some lower
    else some upper

/-- The place of the leading decimal digit: the greatest `e` with `10 ^ e ≤ n / d`. The search goes
    down from `e` for at most the given count of steps. -/
def leadingPlace (n d : Nat) : Nat → Int → Int
  | 0, e => e
  | k + 1, e =>
    let reached := if 0 ≤ e then d * pow10 e.toNat ≤ n else d ≤ n * pow10 (-e).toNat
    if reached then e else leadingPlace n d k (e - 1)

/-- The first of the finer and finer grids that has a decimal in the interval. -/
def firstGrid (i : Interval) (lead : Int) : Nat → Nat → Option Decimal
  | 0, _ => none
  | k + 1, count =>
    match onGrid i (lead - count) with
    | some x => some x
    | none => firstGrid i lead k (count + 1)

/-- A decimal without trailing zeros. -/
def Decimal.trim : Nat → Decimal → Decimal
  | 0, x => x
  | k + 1, x => if x.digits % 10 = 0 then trim k ⟨x.digits / 10, x.exponent + 1⟩ else x

/-- The shortest decimal that reads back as a number other than zero. -/
def shortest (x : Binary64) : Decimal :=
  let i := x.interval
  ((firstGrid i (leadingPlace i.value i.den 640 309) 17 0).getD ⟨0, 0⟩).trim 20

/-- The text of a number. -/
def text (x : Binary64) : String :=
  if x.mantissa = 0 then "0.0"
  else
    let s := x.shortest
    let ds := Nat.toDigits 10 s.digits
    let count : Int := ds.length
    let point := count + s.exponent
    if 0 ≤ s.exponent ∧ point ≤ 16 then
      String.ofList (ds ++ List.replicate s.exponent.toNat '0') ++ ".0"
    else if 0 < point ∧ point ≤ 16 then
      String.ofList (ds.take point.toNat) ++ "." ++ String.ofList (ds.drop point.toNat)
    else if -5 < point ∧ point ≤ 0 then
      "0." ++ String.ofList (List.replicate (-point).toNat '0' ++ ds)
    else
      let power := point - 1
      let sign := if 0 ≤ power then "+" else "-"
      let mantissa :=
        if ds.length = 1 then String.ofList ds
        else String.ofList (ds.take 1) ++ "." ++ String.ofList (ds.drop 1)
      mantissa ++ "e" ++ sign ++ toString power.natAbs

end DeviceKeys.Binary64
