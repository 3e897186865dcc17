import DeviceKeys.Regex.Syntax
import DeviceKeys.Tool.Basic

/-! # The program `expr`

`Tool.expr` computes an expression of which each part is an argument. A value is a text; one that
spells a whole number counts as that in calculations and comparisons. The part of an expression that
does not decide is read, but faults of its values are passed over.
-/

namespace DeviceKeys.Tool

open Shell Act

namespace Expr

/-! ## 1. Values -/

/-- The whole number that a text spells: digits, perhaps behind a hyphen. -/
def int? (s : Chars) : Option Int :=
  match s with
  | '-' :: r => (natural? r).map fun n => -(n : Int)
  | r => (natural? r).map fun (n : Nat) => (n : Int)

/-- The text of a whole number. -/
def textOf (v : Int) : Chars := (toString v).toList

/-- The text is empty or spells zero. -/
def isNull (s : Chars) : Bool :=
  s.isEmpty ||
    match s with
    | '-' :: c :: r => (c :: r).all (· = '0')
    | s => s.all (· = '0')

/-- A truth as a text. -/
def truth (b : Bool) : Chars := if b then ['1'] else ['0']

/-! ## 2. Reading and computing -/

/-- The arguments that are left, and the one that was taken last. -/
structure Place where
  rest : List Chars
  last : Chars

/-- What computes from arguments, and may fail with a message. -/
abbrev Reader := StateT Place (Except Chars)

/-- Takes an argument. -/
def take : Reader (Option Chars) := do
  match (← get).rest with
  | [] => return none
  | a :: rest => do
    set (Place.mk rest a)
    return some a

/-- Takes the argument in front if it is one of some texts. -/
def takes? (texts : List String) : Reader (Option String) := do
  match (← get).rest with
  | [] => return none
  | a :: rest =>
    let s := String.ofList a
    if texts.contains s then
      set (Place.mk rest a)
      return some s
    else return none

/-- Fails for want of an argument. -/
def missing {α : Type} : Reader α := do
  throw ("syntax error: missing argument after ".toList ++ quoted (← get).last)

/-- The whole number of a value. -/
def number (live : Bool) (s : Chars) : Reader Int := do
  match int? s with
  | some v => return v
  | none => if live then throw "non-integer argument".toList else return 0

/-- The result of a match at the start of a text: what the first brackets took, or the length of the
    match. -/
def fits (live : Bool) (text pattern : Chars) : Reader Chars := do
  if !live then return []
  else
    match Regex.read Regex.basic pattern with
    | .error e => throw e.message.toList
    | .ok r =>
      let v := r.lineView false text
      match r.matchAt? v 0 with
      | some f => return if 0 < r.groups then f.group v 1 else textOf f.stop
      | none => return if 0 < r.groups then [] else ['0']

/-- The result of a comparison. -/
def compared (op : String) (a b : Chars) : Chars :=
  let o : Ordering :=
    match int? a, int? b with
    | some m, some n => compare m n
    | _, _ => if a = b then .eq else if a < b then .lt else .gt
  truth <| match op with
    | "<" => o = .lt
    | "<=" => o ≠ .gt
    | ">" => o = .gt
    | ">=" => o ≠ .lt
    | "!=" => o ≠ .eq
    | _ => o = .eq

/-- The result of a calculation. -/
def calculated (live : Bool) (op : String) (a b : Chars) : Reader Chars := do
  let m ← number live a
  let n ← number live b
  match op with
  | "+" => return textOf (m + n)
  | "-" => return textOf (m - n)
  | "*" => return textOf (m * n)
  | _ =>
    if n = 0 then (if live then throw "division by zero".toList else return [])
    else return textOf (if op = "/" then Int.tdiv m n else Int.tmod m n)

/-- The operators of a level of binding; the first binds least. -/
def operators (level : Nat) : List String :=
  match level with
  | 0 => ["|"]
  | 1 => ["&"]
  | 2 => ["<", "<=", "=", "==", "!=", ">=", ">"]
  | 3 => ["+", "-"]
  | 4 => ["*", "/", "%"]
  | 5 => [":"]
  | _ => []

mutual

/-- Computes operands of a level and what joins them. -/
def operands (live : Bool) (level : Nat) : Nat → Reader Chars
  | 0 => missing
  | n + 1 => do
    if 5 < level then word live n
    else more live level (← operands live (level + 1) n) n

/-- Computes what follows an operand at a level. -/
def more (live : Bool) (level : Nat) (a : Chars) : Nat → Reader Chars
  | 0 => missing
  | n + 1 => do
    match ← takes? (operators level) with
    | none => return a
    | some op =>
      match level with
      | 0 => do
        let b ← operands (live && isNull a) (level + 1) n
        more live level (if !isNull a then a else if isNull b then ['0'] else b) n
      | 1 => do
        let b ← operands (live && !isNull a) (level + 1) n
        more live level (if isNull a || isNull b then ['0'] else a) n
      | 2 => do
        let b ← operands live (level + 1) n
        more live level (compared op a b) n
      | 5 => do
        let b ← operands live (level + 1) n
        more live level (← fits live a b) n
      | _ => do
        let b ← operands live (level + 1) n
        more live level (← calculated live op a b) n

/-- Computes an operand that may start with a word. -/
def word (live : Bool) : Nat → Reader Chars
  | 0 => missing
  | n + 1 => do
    match ← takes? ["+", "length", "match", "index", "substr"] with
    | some "+" => do
      match ← take with
      | some a => return a
      | none => missing
    | some "length" => return textOf (← word live n).length
    | some "match" => do
      let a ← word live n
      fits live a (← word live n)
    | some "index" => do
      let a ← word live n
      let b ← word live n
      return textOf (((a.findIdx? b.contains).map fun (i : Nat) => i + 1).getD 0 : Nat)
    | some _ => do
      let a ← word live n
      let first := (int? (← word live n)).getD 0
      let count := (int? (← word live n)).getD 0
      if first ≤ 0 || count ≤ 0 then return []
      else return (a.drop (first - 1).toNat).take count.toNat
    | none => simple live n

/-- Computes an operand that is an argument or stands in brackets. -/
def simple (live : Bool) : Nat → Reader Chars
  | 0 => missing
  | n + 1 => do
    match ← take with
    | none => missing
    | some a =>
      if a = ['('] then
        let v ← operands live 0 n
        let last := (← get).last
        match ← take with
        | some [')'] => return v
        | some b => throw ("syntax error: expecting ')' instead of ".toList ++ quoted b)
        | none => throw ("syntax error: expecting ')' after ".toList ++ quoted last)
      else if a = [')'] then throw "syntax error: unexpected ')'".toList
      else return a

end

end Expr

open DeviceKeys.Tool.Expr

/-- Computes an expression. -/
def expr : Tool := fun _ args => do
  let args := if args.head? = some "--".toList then args.drop 1 else args
  if args.isEmpty then misuse 2 "missing operand".toList
  match (operands true 0 (12 * args.length + 12)).run ⟨args, []⟩ with
  | .error text => refuse 2 text
  | .ok (v, place) =>
    match place.rest with
    | a :: _ => refuse 2 ("syntax error: unexpected argument ".toList ++ quoted a)
    | [] => do
      put (lineOf v)
      return if isNull v then 1 else 0

end DeviceKeys.Tool
