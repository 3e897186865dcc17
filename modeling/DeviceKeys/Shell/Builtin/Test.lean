import DeviceKeys.Shell.Builtin.Basic

/-! # Conditions

The commands `test` and `[` tell by their status whether a condition holds.

* A condition is read from the left with one argument looked at ahead. An operator counts as one
  only where operands are left for it (`Condition.lexeme`), so that texts which look like operators
  can be compared.
* `-a` binds more tightly than `-o`. All parts are looked at.
-/

namespace DeviceKeys.Shell

namespace Condition

open Act

/-! ## 1. Operators -/

/-- How an operator is used. -/
inductive Kind where
  | unary
  | binary
  | either
  | both
  | not
  | opening
  | closing
  deriving DecidableEq

/-- The operators. -/
def operators : List (String × Kind) :=
  (["-r", "-w", "-x", "-e", "-f", "-d", "-c", "-b", "-p", "-u", "-g", "-k", "-s", "-t", "-z", "-n",
    "-h", "-O", "-G", "-L", "-S"].map fun op => (op, Kind.unary)) ++
  (["=", "!=", "<", ">", "-eq", "-ne", "-ge", "-gt", "-le", "-lt", "-nt", "-ot", "-ef"].map
    fun op => (op, Kind.binary)) ++
  [("!", .not), ("-a", .both), ("-o", .either), ("(", .opening), (")", .closing)]

/-- The use of an operator. -/
def kind? (a : Chars) : Option Kind := operators.lookup (String.ofList a)

/-- What the first of some arguments is. A sign for one operand is an operand itself where nothing
    is left for it, or where a sign for two operands follows that has its second one. -/
def lexeme (args : List Chars) : Option Kind :=
  match args with
  | [] => none
  | a :: rest =>
    match kind? a with
    | some .unary =>
      match rest with
      | [] => none
      | [_] => some .unary
      | b :: _ => if kind? b = some .binary then none else some .unary
    | some .opening => if rest.isEmpty then none else some .opening
    | k => k

/-! ## 2. Operands -/

/-- The number that an operand spells. -/
def number (a : Chars) : Act Int := do
  match Arithmetic.number? (some 10) a with
  | some n => return n
  | none => fault ("Illegal number: ".toList ++ a)

/-- The permission bits of the file, if there is one. -/
def mode? (fs : FileSystem) (a : Chars) : Option Nat := fs.mode? (toPath a)

/-- The path leads to a device. -/
def isDevice (fs : FileSystem) (a : Chars) : Bool :=
  match fs.find (toPath a) with
  | .ok (_ :: dir) => dir = [Utf8.ofString "dev"]
  | _ => false

/-- The permission bits of the file hold one of some bits. -/
def hasMode (fs : FileSystem) (bits : Nat) (a : Chars) : Bool :=
  (mode? fs a).any fun m => m &&& bits ≠ 0

/-- The truth of a condition on one operand. -/
def unary (op : String) (a : Chars) : Act Bool := do
  let fs ← fs
  let path := toPath a
  match op with
  | "-n" => return !a.isEmpty
  | "-z" => return a.isEmpty
  | "-t" => do
    let _ ← number a
    return false
  | "-f" => return (fs.stat? path).any (fun e => !e.isDir) && !isDevice fs a
  | "-d" => return fs.isDir path
  | "-c" => return (fs.stat? path).any (fun e => !e.isDir) && isDevice fs a
  | "-h" | "-L" =>
    return (fs.linkStat? path).any fun e =>
      match e with
      | .link _ => true
      | _ => false
  | "-x" => return fs.isDir path || hasMode fs 0o111 a
  | "-u" => return hasMode fs 0o4000 a
  | "-g" => return hasMode fs 0o2000 a
  | "-k" => return hasMode fs 0o1000 a
  | "-b" | "-p" | "-S" => return false
  | "-s" =>
    return (fs.stat? path).any fun e =>
      match e with
      | .file _ data => !data.isEmpty
      | _ => true
  | _ => return fs.exists? path

/-- The place of what a path names in the order of changes, the latest first. -/
def age? (fs : FileSystem) (a : Chars) : Option Nat :=
  match fs.find (toPath a) with
  | .ok l => fs.entries.findIdx? (·.1 = l)
  | .error _ => none

/-- The truth of a condition on two operands. -/
def binary (op : String) (a b : Chars) : Act Bool := do
  let numbers (holds : Int → Int → Bool) : Act Bool := return holds (← number a) (← number b)
  let fs ← fs
  let ages (holds : Nat → Nat → Bool) : Bool :=
    match age? fs a, age? fs b with
    | some m, some n => holds m n
    | _, _ => false
  match op with
  | "=" => return a = b
  | "!=" => return a ≠ b
  | "<" => return decide (a < b)
  | ">" => return decide (b < a)
  | "-eq" => numbers fun x y => x = y
  | "-ne" => numbers fun x y => x ≠ y
  | "-lt" => numbers fun x y => x < y
  | "-le" => numbers fun x y => x ≤ y
  | "-gt" => numbers fun x y => y < x
  | "-ge" => numbers fun x y => y ≤ x
  | "-nt" => return ages fun m n => m < n
  | "-ot" => return ages fun m n => n < m
  | _ =>
    match fs.find (toPath a), fs.find (toPath b) with
    | .ok l, .ok l' => return decide (l = l')
    | _, _ => return false

/-! ## 3. Conditions -/

/-- A condition that has been read: its truth, and the arguments from its last one on. -/
abbrev Found := Bool × List Chars

/-- A text in front of what is wrong about it. -/
def wrong {α : Type} (a : Chars) (text : String) : Act α :=
  fault (if a.isEmpty then text.toList else a ++ ": ".toList ++ text.toList)

/-- Reads a condition on operands. -/
def operand (args : List Chars) : Act Found := do
  match args with
  | [] => return (false, [])
  | a :: rest =>
    match lexeme args, rest with
    | some .unary, b :: _ => return (← unary (String.ofList a) b, rest)
    | _, _ =>
      if lexeme rest = some .binary then
        match rest with
        | op :: b :: r => return (← binary (String.ofList op) a b, b :: r)
        | op :: [] => wrong op "argument expected"
        | [] => return (!a.isEmpty, args)
      else return (!a.isEmpty, args)

mutual

/-- Reads conditions of which one must hold. -/
def anyOf : Nat → Bool → List Chars → Act Found
  | 0, _, args => return (false, args)
  | n + 1, before, args => do
    let (found, args) ← allOf n true args
    let holds := before || found
    match lexeme (args.drop 1) with
    | some .either => anyOf n holds (args.drop 2)
    | _ => return (holds, args)

/-- Reads conditions of which all must hold. -/
def allOf : Nat → Bool → List Chars → Act Found
  | 0, _, args => return (false, args)
  | n + 1, before, args => do
    let (found, args) ← negatable n args
    let holds := before && found
    match lexeme (args.drop 1) with
    | some .both => allOf n holds (args.drop 2)
    | _ => return (holds, args)

/-- Reads a condition that may be negated. -/
def negatable : Nat → List Chars → Act Found
  | 0, args => return (false, args)
  | n + 1, args => do
    match lexeme args with
    | some .not =>
      match args with
      | [_] => do
        let (found, rest) ← primary n []
        return (!found, if rest.isEmpty then args else rest)
      | _ => do
        let (found, rest) ← negatable n (args.drop 1)
        return (!found, rest)
    | _ => primary n args

/-- Reads a condition in brackets or on operands. -/
def primary : Nat → List Chars → Act Found
  | 0, args => return (false, args)
  | n + 1, args => do
    match lexeme args with
    | some .opening =>
      match lexeme (args.drop 1) with
      | some .closing => return (false, args.drop 1)
      | _ => do
        let (found, args) ← anyOf n false (args.drop 1)
        match lexeme (args.drop 1) with
        | some .closing => return (found, args.drop 1)
        | _ => wrong [] "closing paren expected"
    | _ => operand args

end

/-- Reads a whole condition. -/
def whole (args : List Chars) : Act Bool := do
  let (found, rest) ← anyOf (6 * args.length + 6) false args
  match rest.drop 1 with
  | a :: _ => wrong a "unexpected operator"
  | [] => return found

/-- The truth of a condition. With three or four arguments a comparison, a sign of negation in front,
    or brackets around them count before anything else. -/
def holds : List Chars → Act Bool
  | [] => return false
  | a :: rest => do
    let args := a :: rest
    let few := args.length = 3 || args.length = 4
    match args with
    | [x, op, y] =>
      if kind? op = some .binary then return ← binary (String.ofList op) x y
    | _ => pure ()
    if few && a = ['('] && args.getLast? = some [')'] then whole rest.dropLast
    else if few && a = ['!'] then return !(← holds rest)
    else whole args

end Condition

namespace Builtin

open Act

/-- Tells by its status whether a condition holds. -/
def test : Builtin := fun _ args => return statusIf (← Condition.holds args)

/-- Tells by its status whether a condition in brackets holds. -/
def bracket : Builtin := fun ev args => do
  if args.getLast? = some [']'] then test ev args.dropLast
  else fault "missing ]".toList

end Builtin

end DeviceKeys.Shell
