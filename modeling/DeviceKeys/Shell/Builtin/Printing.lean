import DeviceKeys.Shell.Builtin.Basic
import DeviceKeys.Text.Directive

/-! # The commands `echo` and `printf`

Both replace marks that start with a backslash. In the format of `printf` an octal mark is a
backslash and up to three digits; in an argument (`Escape.argument`) a zero may stand in front of
them, and the mark `\c` ends all output.

`printf` goes over its format until no argument is left. An argument that is no number counts as the
number in front of it, with a message.
-/

namespace DeviceKeys.Shell

namespace Escape

/-! ## 1. Marks -/

/-- The character of a mark of one letter. -/
def letter? : Char → Option Char
  | 'a' => some (Char.ofNat 7)
  | 'b' => some (Char.ofNat 8)
  | 'e' => some (Char.ofNat 27)
  | 'f' => some (Char.ofNat 12)
  | 'n' => some '\n'
  | 'r' => some '\r'
  | 't' => some '\t'
  | 'v' => some (Char.ofNat 11)
  | '\\' => some '\\'
  | _ => none

/-- The digit is octal. -/
def isOctal (c : Char) : Bool := '0' ≤ c && c ≤ '7'

/-- The character that up to three octal digits in front name, and what stands behind them. -/
def octal? (s : Chars) : Option (Char × Chars) :=
  let ds := (s.take 3).takeWhile isOctal
  if ds.isEmpty then none
  else some (Char.ofNat ((Arithmetic.digits 8 0 ds).1 % 256), s.drop ds.length)

/-- The character of a mark behind its backslash, and what stands behind it. What is no mark leaves
    the backslash. -/
def mark (s : Chars) : Char × Chars :=
  match s with
  | [] => ('\\', [])
  | c :: r =>
    match letter? c with
    | some d => (d, r)
    | none => (octal? s).getD ('\\', s)

/-- The text of an argument, and whether output ends after it. -/
def argumentFrom : Nat → Chars → Chars × Bool
  | 0, s => (s, false)
  | _, [] => ([], false)
  | n + 1, '\\' :: r =>
    match r with
    | 'c' :: _ => ([], true)
    | r =>
      let digits :=
        match r with
        | '0' :: d :: r' => if isOctal d then d :: r' else r
        | r => r
      let (c, rest) := mark digits
      let (text, ended) := argumentFrom n rest
      (c :: text, ended)
  | n + 1, c :: r =>
    let (text, ended) := argumentFrom n r
    (c :: text, ended)

/-- The text of an argument, and whether output ends after it. -/
def argument (s : Chars) : Chars × Bool := argumentFrom (s.length + 1) s

end Escape

namespace Builtin

open Act

/-! ## 2. Echo -/

/-- The text of arguments with a blank between them, and whether output ends after it. -/
def echoed : List Chars → Chars × Bool
  | [] => ([], false)
  | [a] => Escape.argument a
  | a :: b :: r =>
    match Escape.argument a with
    | (text, true) => (text, true)
    | (text, false) =>
      let (more, ended) := echoed (b :: r)
      (text ++ ' ' :: more, ended)

/-- Writes the text of a command that prints, and gives its status. -/
def printed (text : Chars) (status : Nat) : Act Nat := do
  if text.isEmpty || (← write 1 text) then return status
  else
    let label := ((← process).label).getD []
    complain (label ++ ": I/O error".toList)
    return status ||| 1

/-- Prints its arguments. -/
def echo : Builtin := fun _ args => do
  let (words, feed) : List Chars × Chars :=
    match args with
    | ['-', 'n'] :: r => (r, [])
    | args => (args, ['\n'])
  let (text, ended) := echoed words
  printed (if ended then text else text ++ feed) 0

/-! ## 3. Printf -/

/-- What a pass over a format has come to: the text printed, the last first, the arguments left,
    the status, and whether output has ended. -/
structure Pass where
  text : List Chars
  left : List Chars
  status : Nat
  ended : Bool

/-- Prints more. -/
def Pass.add (p : Pass) (s : Chars) : Pass := { p with text := s :: p.text }

/-- Takes the next argument, empty when there is none. -/
def Pass.next (p : Pass) : Chars × Pass := (p.left.headD [], { p with left := p.left.drop 1 })

/-- Tells that an argument is not a number as a whole. -/
def misfit (a : Chars) (rest : Option Chars) (tooLarge : Bool) (p : Pass) : Act Pass := do
  let warn (text : String) : Act Pass := do
    complain (a ++ ": ".toList ++ text.toList)
    return { p with status := 1 }
  match rest with
  | none => if a.isEmpty then return p else warn "expected numeric value"
  | some [] => if tooLarge then warn "Numerical result out of range" else return p
  | some _ => warn "not completely converted"

/-- The character that an argument names by a quote in front of it. -/
def named? (a : Chars) : Option Nat :=
  match a with
  | q :: r => if q = '\'' || q = '"' then some ((r.headD (Char.ofNat 0)).toNat) else none
  | [] => none

/-- The next argument as a whole number, between bounds. -/
def nextInteger (low high : Int) (p : Pass) : Act (Int × Pass) := do
  if p.left.isEmpty then return (0, p)
  else
    let (a, p) := p.next
    match named? a with
    | some n => return (n, p)
    | none =>
      let found := Arithmetic.leading? none a
      let v := (found.map (·.1)).getD 0
      return (max low (min high v), ← misfit a (found.map (·.2)) (decide (v < low ∨ high < v)) p)

/-- The next argument as a number with a sign. -/
def nextSigned : Pass → Act (Int × Pass) := nextInteger (-Arithmetic.largest - 1) Arithmetic.largest

/-- The next argument as a number without a sign; a negative one wraps. -/
def nextUnsigned (p : Pass) : Act (Nat × Pass) := do
  let most : Int := 2 * Arithmetic.largest + 1
  let (v, p) ← nextInteger (-most) most p
  return (Arithmetic.bits v, p)

/-- The next argument as a quantity. -/
def nextQuantity (p : Pass) : Act (Quantity × Pass) := do
  if p.left.isEmpty then return (.finite false 0 1, p)
  else
    let (a, p) := p.next
    match named? a with
    | some n => return (.finite false n 1, p)
    | none =>
      let found := Quantity.read? a
      let v := (found.map (·.1)).getD (.finite false 0 1)
      return (v.rounded, ← misfit a (found.map (·.2)) false p)

/-- Fills the sizes of a directive that are left to arguments. -/
def sized (d : Directive) (p : Pass) : Act (Directive × Pass) := do
  let (d, p) ←
    if d.width = .given then do
      let (n, p) ← nextSigned p
      pure (d.withWidth n, p)
    else pure (d, p)
  if d.precision = .given then
    let (n, p) ← nextSigned p
    return (d.withPrecision n, p)
  else return (d, p)

/-- Prints an argument as a directive says; none for a directive of no kind. -/
def directed (d : Directive) (p : Pass) : Act (Option Pass) := do
  match d.kind with
  | 's' =>
    let (a, p) := p.next
    return some (p.add (d.text a))
  | 'b' =>
    let (a, p) := p.next
    let (text, ended) := Escape.argument a
    return some { p.add (d.text text) with ended := ended }
  | 'c' =>
    let (a, p) := p.next
    return some (p.add (d.character (a.headD (Char.ofNat 0))))
  | kind =>
    if kind = 'd' || kind = 'i' then
      let (v, p) ← nextSigned p
      return some (p.add (d.integer v))
    else if "ouxX".toList.contains kind then
      let (v, p) ← nextUnsigned p
      return some (p.add (d.natural v))
    else if "aAeEfFgG".toList.contains kind then
      let (v, p) ← nextQuantity p
      return some (p.add (d.quantity v))
    else return none

/-- Goes over a format once. What was printed before a fault stays. -/
def format : Nat → Chars → Pass → Act Pass
  | 0, _, p => return p
  | _, [], p => return p
  | n + 1, c :: r, p => do
    let broken (text : Chars) : Act Pass := do
      out p.text.reverse.flatten
      fault text
    if p.ended then return p
    else if c = '\\' then
      let (d, rest) := Escape.mark r
      format n rest (p.add [d])
    else if c ≠ '%' then format n r (p.add [c])
    else
      match r with
      | '%' :: r => format n r (p.add ['%'])
      | r =>
        match Directive.read? r with
        | none => broken "missing format character".toList
        | some (d, rest) =>
          let (sizedDirective, p) ← sized d p
          match ← directed sizedDirective p with
          | some p => format n rest p
          | none =>
            broken ('%' :: r.take (r.length - rest.length) ++ ": invalid directive".toList)

/-- Goes over a format until no argument is left. -/
def formats (text : Chars) : Nat → Pass → Act Pass
  | 0, p => return p
  | n + 1, p => do
    let q ← format (text.length + 1) text p
    if q.ended || q.left.isEmpty || q.left.length = p.left.length then return q
    else formats text n q

/-- Prints by a format. -/
def printf : Builtin := fun _ args => do
  match ← operands args with
  | [] => fault "usage: printf format [arg ...]".toList
  | text :: args =>
    let p ← formats text (args.length + 1) ⟨[], args, 0, false⟩
    printed p.text.reverse.flatten p.status

end Builtin

end DeviceKeys.Shell
