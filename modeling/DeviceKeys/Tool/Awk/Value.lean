import DeviceKeys.Tool.Awk.Program
import DeviceKeys.Text.Directive
import Std.Data.HashMap

/-! # Values of the pattern language

A `Value` is a number, a text, or a text that was read, which counts as a number in comparisons when
it looks like one. A `Table` is an array: values by texts.

* A number that is whole is shown by its digits, any other by a format.
* The elements of a table come in the order of a hash of their names, and those with the same hash as
  they were used last (`Table.keys`).
-/

namespace DeviceKeys.Tool.Awk

open Shell

/-! ## 1. Values -/

/-- A value. -/
inductive Value where
  | none
  | number (q : Quantity)
  | text (s : Chars)
  | input (s : Chars)

instance : Inhabited Value := ⟨.none⟩

/-- The number zero. -/
def zero : Quantity := .finite false 0 1

/-- The number in front of a text. -/
def numberIn (s : Chars) : Quantity :=
  match Quantity.read? s with
  | some (.finite negative n d, _) => Quantity.settled (Quantity.signed negative n) d
  | some (q, _) => q
  | none => zero

/-- The text is a number between blanks. -/
def looksNumeric (s : Chars) : Bool :=
  match Quantity.read? s with
  | some (.finite _ _ _, rest) => rest.all fun c => c = ' ' || c = '\t' || c = '\n'
  | _ => false

/-- The number of a value. -/
def Value.toNumber : Value → Quantity
  | .none => zero
  | .number q => q
  | .text s => numberIn s
  | .input s => numberIn s

/-- The text of a format with one directive for a number. -/
def formatted (format : Chars) (q : Quantity) : Chars :=
  let front := format.takeWhile (· ≠ '%')
  match Directive.read? (format.drop (front.length + 1)) with
  | some (d, rest) =>
    let body :=
      if d.kind = 'd' || d.kind = 'i' then d.integer q.toInt
      else if "eEfFgGaA".toList.contains d.kind then d.quantity q
      else []
    front ++ body ++ rest
  | none => format

/-- The text of a number; `format` is for one that is not whole. -/
def numberText (format : Chars) (q : Quantity) : Chars :=
  match q.whole? with
  | some v =>
    if -(pow2 63 : Int) ≤ v && v ≤ pow2 64 then (toString (min v (pow2 64 - 1))).toList
    else formatted format q
  | none => formatted format q

/-- The text of a value. -/
def Value.toText (format : Chars) : Value → Chars
  | .none => []
  | .number q => numberText format q
  | .text s => s
  | .input s => s

/-- The value counts as true. -/
def Value.isTrue : Value → Bool
  | .none => false
  | .number q => !q.isZero
  | .text s => !s.isEmpty
  | .input s => if looksNumeric s then !(numberIn s).isZero else !s.isEmpty

/-- The value counts as a number in comparisons. -/
def Value.isNumeric : Value → Bool
  | .none => true
  | .number _ => true
  | .text _ => false
  | .input s => looksNumeric s

/-- A truth as a value. -/
def truth (b : Bool) : Value := .number (if b then .finite false 1 1 else zero)

/-- Compares values; none when there is no order between them. -/
def compareValues (format : Chars) (a b : Value) : Option Ordering :=
  if a.isNumeric && b.isNumeric then Quantity.compare? a.toNumber b.toNumber
  else
    let s := a.toText format
    let t := b.toText format
    some (if s = t then .eq else if s < t then .lt else .gt)

/-- The order is one that a comparison asks for. -/
def Comparison.holds (c : Comparison) (o : Option Ordering) : Bool :=
  match c, o with
  | .less, o => o = some .lt
  | .atMost, o => o = some .lt || o = some .eq
  | .equal, o => o = some .eq
  | .unequal, o => o ≠ some .eq
  | .greater, o => o = some .gt
  | .atLeast, o => o = some .gt || o = some .eq

/-- The result of an operation on numbers. -/
def Operation.apply (op : Operation) (a b : Quantity) : Quantity :=
  match op with
  | .add => a.sum b
  | .subtract => a.difference b
  | .multiply => a.product b
  | .divide => a.quotient b
  | .remainder => a.remainder b
  | .power => a.power b
  | .join => a

/-! ## 2. Tables -/

/-- An element of a table: its value, when it was used last, and whether it was named only by a whole
    number. -/
structure Element where
  value : Value
  used : Nat
  whole : Bool

/-- A table. `slots` is the count of places for hashes. -/
structure Table where
  elements : Std.HashMap String Element
  slots : Nat
  clock : Nat

namespace Table

/-- The table without elements. -/
def empty : Table := ⟨{}, 64, 0⟩

/-- The hash of a name. -/
def hashOf (key : String) : Nat :=
  key.toList.foldl (fun h c => ((h ^^^ c.toNat) * 16777619) % 4294967296) 2166136261

/-- The value of an element, if it is there. -/
def get? (t : Table) (key : String) : Option Value := (t.elements.get? key).map (·.value)

/-- The table with an element used now. -/
def touched (t : Table) (key : String) (whole : Bool) : Table :=
  match t.elements.get? key with
  | some e =>
    let e := if whole then e else { e with used := t.clock, whole := false }
    { t with elements := t.elements.insert key e, clock := t.clock + 1 }
  | none => t

/-- The table with a value for an element. -/
def put (t : Table) (key : String) (whole : Bool) (v : Value) : Table :=
  match t.elements.get? key with
  | some e =>
    let e := if whole then e else { e with used := t.clock, whole := false }
    { t with elements := t.elements.insert key { e with value := v }, clock := t.clock + 1 }
  | none =>
    let slots := if 12 * t.slots < t.elements.size + 1 then 2 * t.slots else t.slots
    ⟨t.elements.insert key ⟨v, t.clock, whole⟩, slots, t.clock + 1⟩

/-- The table without an element. -/
def erase (t : Table) (key : String) : Table :=
  let elements := t.elements.erase key
  if elements.isEmpty then empty else { t with elements := elements }

/-- The names of the elements in order, and the table in which they are all named by texts. -/
def keys (t : Table) : List String × Table :=
  let all := t.elements.toList
  let rank (key : String) : Nat := (natural? key.toList).getD 0
  let numbers := (all.filter (·.2.whole)).mergeSort fun a b =>
    let m := rank a.1 % t.slots
    let n := rank b.1 % t.slots
    m < n || (m = n && b.2.used ≤ a.2.used)
  let named := (numbers.zip (List.range numbers.length)).map fun ((key, e), n) =>
    (key, { e with used := t.clock + n, whole := false })
  let t : Table :=
    { t with
      elements := named.foldl (fun es (key, e) => es.insert key e) t.elements
      clock := t.clock + numbers.length }
  let place (x : String × Element) : Nat := hashOf x.1 % t.slots
  let sorted := t.elements.toList.mergeSort fun a b =>
    place a < place b || (place a = place b && b.2.used ≤ a.2.used)
  (sorted.map (·.1), t)

end Table

end DeviceKeys.Tool.Awk
