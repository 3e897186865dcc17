import DeviceKeys.Shell.Subshell

/-! # Commands of the shell

A `Builtin` is a command that the shell carries out itself: it takes the arguments and gives a
status. A fault ends it with status 2 (`Act.fault`).

Options are letters behind a hyphen. They may stand together, and an option that takes a value takes
what follows its letter, or the next argument (`Builtin.options`).
-/

namespace DeviceKeys.Shell

/-- A command of the shell. -/
abbrev Builtin := Evaluator → List Chars → Act Nat

namespace Builtin

open Act

/-- The status of a condition. -/
def statusIf (b : Bool) : Nat := if b then 0 else 1

/-- Reads options: letters that are allowed, followed by a colon if they take a value. Gives the
    options and the arguments behind them. `here` are letters of the argument begun. -/
def optionsFrom (allowed : Chars) : Nat → Chars → List Chars →
    Act (List (Char × Chars) × List Chars)
  | 0, _, args => return ([], args)
  | n + 1, here, args => do
    match here, args with
    | [], ['-', '-'] :: rest => return ([], rest)
    | [], ('-' :: c :: r) :: rest => optionsFrom allowed n (c :: r) rest
    | [], args => return ([], args)
    | c :: r, args =>
      match allowed.dropWhile (· ≠ c) with
      | [] => fault ("Illegal option -".toList ++ [c])
      | _ :: ':' :: _ =>
        if c = ':' then fault "Illegal option -:".toList
        else
          match r, args with
          | [], [] => fault ("No arg for -".toList ++ [c] ++ " option".toList)
          | [], value :: rest => do
            let (os, rest) ← optionsFrom allowed n [] rest
            return ((c, value) :: os, rest)
          | r, args => do
            let (os, rest) ← optionsFrom allowed n [] args
            return ((c, r) :: os, rest)
      | _ => do
        let (os, rest) ← optionsFrom allowed n r args
        return ((c, []) :: os, rest)

/-- Reads options: letters that are allowed, followed by a colon if they take a value. Gives the
    options and the arguments behind them. -/
def options (allowed : String) (args : List Chars) : Act (List (Char × Chars) × List Chars) :=
  optionsFrom allowed.toList (args.flatten.length + args.length + 1) [] args

/-- The arguments of a command that has no options. -/
def operands (args : List Chars) : Act (List Chars) := return (← options "" args).2

/-- The natural number that an argument spells. -/
def natural (a : Chars) : Act Nat := do
  match Arithmetic.number? (some 10) a with
  | some n =>
    if 0 ≤ n ∧ n ≤ 2147483647 then return n.toNat
    else fault ("Illegal number: ".toList ++ a)
  | none => fault ("Illegal number: ".toList ++ a)

/-- A text between single quotes; a quote in it stands between double quotes. -/
def quoted (s : Chars) : Chars :=
  let marks := s.flatMap fun c => if c = '\'' then "'\"'\"'".toList else [c]
  '\'' :: marks ++ ['\'']

/-- The text ends in a line of its own. -/
def lineOf (s : Chars) : Chars := s ++ ['\n']

end Builtin

end DeviceKeys.Shell
