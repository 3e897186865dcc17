import DeviceKeys.Shell.Word

/-! # Arithmetic of a shell script

`Arithmetic.evaluate` gives the value of an expression between `$((` and `))`, and the values that
it gives to names.

* Numbers have 64 bits and wrap; a number that is written larger is the largest.
* Division goes toward zero. Comparisons and logical signs give 0 or 1.
* What the logical signs and `?` leave out is read, but neither looked up nor carried out.
-/

namespace DeviceKeys.Shell.Arithmetic

/-! ## 1. Numbers -/

/-- The count of whole numbers of 64 bits. -/
def modulus : Nat := 18446744073709551616

/-- The largest whole number of 64 bits. -/
def largest : Int := 9223372036854775807

/-- The whole number of 64 bits that a number wraps to. -/
def wrap (n : Int) : Int := n.bmod modulus

/-- The whole number of 64 bits that is nearest to a number. -/
def clamp (n : Int) : Int := max (-largest - 1) (min largest n)

/-- The bits of a number as a natural number. -/
def bits (n : Int) : Nat := (n % Int.ofNat modulus).toNat

/-- The number that a character stands for in a base up to sixteen. -/
def digit? (base : Nat) (c : Char) : Option Nat :=
  let v :=
    if c.isDigit then some (c.toNat - '0'.toNat)
    else if 'a' ≤ c ∧ c ≤ 'f' then some (c.toNat - 'a'.toNat + 10)
    else if 'A' ≤ c ∧ c ≤ 'F' then some (c.toNat - 'A'.toNat + 10)
    else none
  v.filter (· < base)

/-- The number that the digits in front spell, and what stands behind them. -/
def digits (base : Nat) : Nat → Chars → Nat × Chars
  | v, c :: r =>
    match digit? base c with
    | some d => digits base (v * base + d) r
    | none => (v, c :: r)
  | v, [] => (v, [])

/-- The natural number in front of a text that starts with a digit, and what stands behind it: octal
    after a zero and hexadecimal after `0x`, unless a base is given. -/
def natural (base : Option Nat) : Chars → Nat × Chars
  | '0' :: x :: c :: r =>
    if (x = 'x' || x = 'X') && (digit? 16 c).isSome && (base.isNone || base = some 16) then
      digits 16 0 (c :: r)
    else digits (base.getD 8) 0 (x :: c :: r)
  | '0' :: r => digits (base.getD 8) 0 r
  | s => digits (base.getD 10) 0 s

/-- The character is white space. -/
def isSpace (c : Char) : Bool :=
  c = ' ' || ('\t'.toNat ≤ c.toNat && c.toNat ≤ '\r'.toNat)

/-- The number in front of a text, with space and a sign before it, and what stands behind; none
    when no number is there. -/
def leading? (base : Option Nat) (s : Chars) : Option (Int × Chars) :=
  let s := s.dropWhile isSpace
  let (negative, s) :=
    match s with
    | '-' :: r => (true, r)
    | '+' :: r => (false, r)
    | s => (false, s)
  if s.head?.any fun c => (digit? (base.getD 10) c).isSome then
    let (n, r) := natural base s
    some (if negative then -(n : Int) else n, r)
  else none

/-- The number that a whole text spells, with space around it. -/
def number? (base : Option Nat) (s : Chars) : Option Int :=
  match leading? base s with
  | some (n, r) =>
    if (r.dropWhile isSpace).isEmpty && clamp n = n then some n else none
  | none => none

/-- The text of a number. -/
def shown (n : Int) : Chars := (toString n).toList

/-! ## 2. Pieces of an expression -/

/-- A piece of an expression. -/
inductive Lexeme where
  | number (n : Int)
  | name (s : Chars)
  | sign (s : String)
  deriving DecidableEq, Repr

/-- The signs of three characters, then those of two, then those of one. -/
def signs : List String :=
  ["<<=", ">>=", "||", "&&", "==", "!=", "<=", ">=", "<<", ">>", "+=", "-=", "*=", "/=", "%=", "&=",
   "|=", "^=", "+", "-", "*", "/", "%", "<", ">", "=", "&", "|", "^", "!", "~", "?", ":", "(", ")"]

/-- Cuts an expression into its pieces; what is no piece is a sign that no rule knows. -/
def scan : Nat → Chars → List Lexeme
  | 0, _ => []
  | _, [] => []
  | n + 1, c :: r =>
    if c = ' ' || c = '\t' || c = '\n' then scan n r
    else if c.isDigit then
      let (v, r) := natural none (c :: r)
      .number (clamp v) :: scan n r
    else if isNameStart c then
      .name ((c :: r).takeWhile isNameChar) :: scan n (r.dropWhile isNameChar)
    else
      match signs.find? fun s => s.toList.isPrefixOf (c :: r) with
      | some s => .sign s :: scan n ((c :: r).drop s.length)
      | none => .sign "" :: scan n r

/-! ## 3. Values -/

/-- Why an expression has no value: it is malformed, or a name has a value that is no number. -/
inductive Fault where
  | malformed (reason : String)
  | notNumber (text : Chars)
  deriving DecidableEq, Repr

/-- The pieces left, and the names that have been given values. -/
structure Progress where
  rest : List Lexeme
  given : List (Chars × Int)

/-- Reads an expression and computes. -/
abbrev Reckoning := StateT Progress (Except Fault)

/-- The number of a truth value. -/
def truth (b : Bool) : Int := if b then 1 else 0

/-- How tightly a sign binds. -/
def strengths : List (String × Nat) :=
  [("||", 1), ("&&", 2), ("|", 3), ("^", 4), ("&", 5), ("==", 6), ("!=", 6), ("<", 7), ("<=", 7),
   (">", 7), (">=", 7), ("<<", 8), (">>", 8), ("+", 9), ("-", 9), ("*", 10), ("/", 10), ("%", 10)]

/-- The value of a sign between two numbers. -/
def combine (op : String) (a b : Int) : Except Fault Int :=
  match op with
  | "||" => .ok (truth (a ≠ 0 || b ≠ 0))
  | "&&" => .ok (truth (a ≠ 0 && b ≠ 0))
  | "|" => .ok (wrap (bits a ||| bits b))
  | "^" => .ok (wrap (bits a ^^^ bits b))
  | "&" => .ok (wrap (bits a &&& bits b))
  | "==" => .ok (truth (a = b))
  | "!=" => .ok (truth (a ≠ b))
  | "<" => .ok (truth (a < b))
  | "<=" => .ok (truth (a ≤ b))
  | ">" => .ok (truth (b < a))
  | ">=" => .ok (truth (b ≤ a))
  | "<<" => .ok (wrap (bits a <<< (bits b % 64)))
  | ">>" => .ok (a >>> (bits b % 64))
  | "+" => .ok (wrap (a + b))
  | "-" => .ok (wrap (a - b))
  | "*" => .ok (wrap (a * b))
  | "/" => if b = 0 then .error (.malformed "division by zero") else .ok (wrap (a.tdiv b))
  | _ => if b = 0 then .error (.malformed "division by zero") else .ok (wrap (a.tmod b))

/-- The next piece, without taking it. -/
def next? : Reckoning (Option Lexeme) := return (← get).rest.head?

/-- Passes over a piece. -/
def pass : Reckoning Unit := modify fun p => { p with rest := p.rest.drop 1 }

/-- Passes over a sign that must stand here. -/
def expect (sign : String) : Reckoning Unit := do
  if (← next?) = some (.sign sign) then pass
  else throw (.malformed ("expecting '" ++ sign ++ "'"))

/-- The value that a name has, given outside or in this expression. -/
def valueOf (lookup : Chars → Except Fault Int) (name : Chars) : Reckoning Int := do
  match (← get).given.lookup name with
  | some v => return v
  | none => lookup name

/-- Gives a value to a name. -/
def give (name : Chars) (v : Int) : Reckoning Unit :=
  modify fun p => { p with given := (name, v) :: p.given }

/-- The sign that a sign of assignment carries out first. -/
def assigning? (sign : String) : Option (Option String) :=
  if sign = "=" then some none
  else if ["<<=", ">>=", "+=", "-=", "*=", "/=", "%=", "&=", "|=", "^="].contains sign then
    some (some (String.ofList (sign.toList.dropLast)))
  else none

mutual

/-- The value of an operand: a number, a name, a bracket, or a sign in front of an operand. `idle`
    says that the value does not count. -/
def operand (lookup : Chars → Except Fault Int) : Nat → Bool → Reckoning Int
  | 0, _ => throw (.malformed "expecting primary")
  | n + 1, idle => do
    let t ← next?
    pass
    match t with
    | some (.number v) => return v
    | some (.name s) => if idle then return 0 else valueOf lookup s
    | some (.sign "(") =>
      let v ← whole lookup n idle
      expect ")"
      return v
    | some (.sign "-") => return wrap (-(← operand lookup n idle))
    | some (.sign "+") => operand lookup n idle
    | some (.sign "!") => return truth ((← operand lookup n idle) = 0)
    | some (.sign "~") => return wrap (-(← operand lookup n idle) - 1)
    | _ => throw (.malformed "expecting primary")

/-- The value of operands joined by signs that bind at least so tightly. -/
def joined (lookup : Chars → Except Fault Int) : Nat → Nat → Bool → Reckoning Int
  | 0, _, _ => throw (.malformed "expecting primary")
  | n + 1, least, idle => do
    let v ← operand lookup n idle
    further lookup n least v idle

/-- The value of an operand and what signs behind it add. -/
def further (lookup : Chars → Except Fault Int) : Nat → Nat → Int → Bool → Reckoning Int
  | 0, _, v, _ => return v
  | n + 1, least, v, idle => do
    match ← next? with
    | some (.sign op) =>
      match strengths.lookup op with
      | none => return v
      | some strength =>
        if strength < least then return v
        else
          pass
          let settled := (op = "&&" && v = 0) || (op = "||" && v ≠ 0)
          let w ← joined lookup n (strength + 1) (idle || settled)
          let v ← if idle then pure w else combine op v w
          further lookup n least v idle
    | _ => return v

/-- The value of a choice between two values, or of what stands in its place. -/
def chosen (lookup : Chars → Except Fault Int) : Nat → Bool → Reckoning Int
  | 0, _ => throw (.malformed "expecting primary")
  | n + 1, idle => do
    let test ← joined lookup n 1 idle
    if (← next?) = some (.sign "?") then
      pass
      let yes ← whole lookup n (idle || test = 0)
      expect ":"
      let no ← chosen lookup n (idle || test ≠ 0)
      return if test ≠ 0 then yes else no
    else return test

/-- The value of an expression, which may give its value to a name. -/
def whole (lookup : Chars → Except Fault Int) : Nat → Bool → Reckoning Int
  | 0, _ => throw (.malformed "expecting primary")
  | n + 1, idle => do
    match (← get).rest with
    | .name s :: .sign op :: r =>
      match assigning? op with
      | none => chosen lookup n idle
      | some first =>
        modify fun p => { p with rest := r }
        let v ← whole lookup n idle
        if idle then return v
        else
          let v ←
            match first with
            | none => pure v
            | some op => combine op (← valueOf lookup s) v
          give s v
          return v
    | _ => chosen lookup n idle

end

/-- The value of an expression, and the values it gives to names, the last first. `lookup` gives the
    values of names. -/
def evaluate (lookup : Chars → Except Fault Int) (expression : Chars) :
    Except Fault (Int × List (Chars × Int)) := do
  let pieces := scan (expression.length + 1) expression
  let (v, p) ← (whole lookup (6 * pieces.length + 6) false).run ⟨pieces, []⟩
  if p.rest.isEmpty then return (v, p.given) else throw (.malformed "expecting EOF")

end DeviceKeys.Shell.Arithmetic
