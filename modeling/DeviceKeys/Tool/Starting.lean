import DeviceKeys.Decimal.Quantity
import DeviceKeys.Shell.Builtin.Control
import DeviceKeys.Tool.Reading

/-! # Programs that start others, and programs about the system

`env`, `xargs`, `timeout`, `nohup`, `nice`, `which`, `sleep`, and `uname`, `whoami` and `id`.

* A program that puts another in its place ends as that one does (`become`).
* `xargs` cuts its input into arguments: at white space that is not quoted, at the ends of lines, or
  at a character that it is given.
-/

namespace DeviceKeys.Tool

open Shell Act

/-! ## 1. Starting one program -/

/-- Ends as a program does that was started; `refusal` tells that it could not be. -/
def become (ev : Evaluator) (args : List Chars) (refusal : IoFault → Act Unit) : Act Nat := do
  match ← ev.exec args with
  | .ok (.exited status) => return status
  | .ok (.signaled n) => throw (.killed n)
  | .error e => do
    refusal e
    return unstartedStatus e

/-- Splits a text at blanks. -/
def wordsOf (s : Chars) : List Chars := (s.splitOn ' ').filter (!·.isEmpty)

/-- Runs a program with other variables, or shows the variables. -/
def env : Tool := fun ev args => do
  let args :=
    match args with
    | ('-' :: 'S' :: text) :: rest => wordsOf text ++ rest
    | args => args
  let args := args.map fun a => if a = ['-'] then "-i".toList else a
  let g ← options (words [('i', "ignore-environment"), ('0', "null"), ('v', "debug")] ++
    valuedWords [('u', "unset"), ('C', "chdir"), ('S', "split-string")]) false 125 args
  if g.has 'i' then change fun p => { p with bindings := [] }
  (g.options.filter (·.1 = 'u')).forM fun o =>
    change fun p => withoutVariable p o.2
  match g.value? 'C' with
  | some dir =>
    match (← fs).find (toPath dir) with
    | .ok l => change fun p => { p with dir := l }
    | .error e =>
      refuse 125 ("cannot change directory to ".toList ++ shellQuoted dir ++ ": ".toList ++ reason e)
  | none => pure ()
  let given := g.operands.takeWhile fun a => a.contains '='
  given.forM fun a => do
    let name := a.takeWhile (· ≠ '=')
    change fun p => withVariable p name ⟨some (a.drop (name.length + 1)), true, false⟩
  match g.operands.drop given.length with
  | [] => do
    let ending := if g.has '0' then Char.ofNat 0 else '\n'
    put ((environment (← process)).flatMap fun (name, value) =>
      name ++ '=' :: value ++ [ending])
    return 0
  | name :: rest =>
    become ev (name :: rest) fun e => warn (quoted name ++ ": ".toList ++ reason e)

/-- Shows variables. -/
def printenv : Tool := fun _ args => do
  let g ← options (words [('0', "null")]) false 2 args
  let vs := environment (← process)
  if g.operands.isEmpty then
    put (vs.flatMap fun (name, value) => lineOf (name ++ '=' :: value))
    return 0
  else
    let results ← g.operands.mapM fun name => do
      match vs.lookup name with
      | some value => do
        put (lineOf value)
        return true
      | none => return false
    return statusOfAll results

/-- Runs a program; the time that it may take is not looked at. -/
def timeout : Tool := fun ev args => do
  let g ← options (valuedWords [('k', "kill-after"), ('s', "signal")] ++
    words [('v', "verbose"), ('f', "foreground"), ('p', "preserve-status")]) false 125 args
  match g.operands with
  | [] => misuse 125 "missing operand".toList
  | [_] => misuse 125 "missing operand".toList
  | _ :: name :: rest =>
    become ev (name :: rest) fun e =>
      warn ("failed to run command ".toList ++ quoted name ++ ": ".toList ++ reason e)

/-- Runs a program. -/
def plainly (flags : List Flag) : Tool := fun ev args => do
  let g ← options flags false 125 args
  match g.operands with
  | [] => misuse 125 "missing operand".toList
  | name :: rest =>
    become ev (name :: rest) fun e => warn (quoted name ++ ": ".toList ++ reason e)

/-- Runs a program that is not to end with the terminal. -/
def nohup : Tool := plainly []

/-- Runs a program that gives way to others. -/
def nice : Tool := plainly (valuedWords [('n', "adjustment")])

/-! ## 2. Starting a program for arguments -/

/-- Arguments with the numbers of their lines, and the kind of a quote that has no end behind them. -/
structure Cut where
  arguments : List (Chars × Nat)
  unmatched : Option String

/-- Cuts a text at white space that is not quoted into arguments. `started` says that the argument
    begun is there though it is empty. -/
def cutWords : Nat → Chars → Bool → Nat → Chars → Cut
  | 0, _, _, _, _ => ⟨[], none⟩
  | _, acc, started, line, [] =>
    ⟨if acc.isEmpty && !started then [] else [(acc.reverse, line)], none⟩
  | n + 1, acc, started, line, c :: r =>
    let next := if c = '\n' then line + 1 else line
    if c = ' ' || c = '\t' || c = '\n' then
      let found := if acc.isEmpty && !started then [] else [(acc.reverse, line)]
      let rest := cutWords n [] false next r
      ⟨found ++ rest.arguments, rest.unmatched⟩
    else if c = '\\' then
      match r with
      | d :: r => cutWords n (d :: acc) true line r
      | [] => ⟨[(acc.reverse, line)], none⟩
    else if c = '\'' || c = '"' then
      let body := r.takeWhile fun d => d ≠ c && d ≠ '\n'
      let kind := if c = '\'' then "single" else "double"
      match r.drop body.length with
      | d :: r => if d = c then cutWords n (body.reverse ++ acc) true line r else ⟨[], some kind⟩
      | [] => ⟨[], some kind⟩
    else cutWords n (c :: acc) true line r

/-- The arguments in groups of at most so many. -/
def groupsOf (count : Nat) : Nat → List Chars → List (List Chars)
  | 0, _ => []
  | _, [] => []
  | n + 1, xs => xs.take (max 1 count) :: groupsOf count n (xs.drop (max 1 count))

/-- The arguments in groups of so many lines. -/
def groupsOfLines (count : Nat) : Nat → List (Chars × Nat) → List (List Chars)
  | 0, _ => []
  | _, [] => []
  | n + 1, (a, line) :: rest =>
    let numbers := (((a, line) :: rest).map (·.2)).eraseDups
    let own := numbers.take (max 1 count)
    let (now, later) := ((a, line) :: rest).partition fun x => own.contains x.2
    now.map (·.1) :: groupsOfLines count n later

/-- Replaces a mark in a text. -/
def replaceAll (mark new : Chars) : Nat → Chars → Chars
  | 0, s => s
  | _, [] => []
  | n + 1, c :: r =>
    if !mark.isEmpty && mark.isPrefixOf (c :: r) then
      new ++ replaceAll mark new n ((c :: r).drop mark.length)
    else c :: replaceAll mark new n r

/-- The character is a blank or a tab. -/
def isGap (c : Char) : Bool := c = ' ' || c = '\t'

/-- The character that separates arguments, if there is one. -/
def separator? (g : Given) : Option Char :=
  if g.has '0' then some (Char.ofNat 0)
  else
    (g.value? 'd').map fun d =>
      match d with
      | '\\' :: 'n' :: _ => '\n'
      | '\\' :: 't' :: _ => '\t'
      | '\\' :: '0' :: _ => Char.ofNat 0
      | c :: _ => c
      | [] => Char.ofNat 0

/-- The mark that stands for an argument, if there is one. -/
def mark? (g : Given) : Option Chars :=
  (g.value? 'I').or
    ((g.value? 'i').map fun (m : Chars) => if m.isEmpty then "\x7b\x7d".toList else m)

/-- The arguments that a text holds. -/
def items (g : Given) (text : Chars) : Cut :=
  let counted (xs : List Chars) : List (Chars × Nat) := xs.zip (List.range xs.length)
  match separator? g with
  | some c =>
    let parts := text.splitOn c
    ⟨counted (if parts.getLast? = some [] then parts.dropLast else parts), none⟩
  | none =>
    if (mark? g).isSome then
      ⟨counted (((linesOf text).map fun l => l.dropWhile isGap).filter fun l => !l.isEmpty), none⟩
    else cutWords (text.length + 1) [] false 0 text

/-- The commands that are to be run for arguments. -/
def commandsFor (g : Given) (command : List Chars) (xs : List (Chars × Nat)) :
    List (List Chars) :=
  match mark? g with
  | some m => xs.map fun (a, _) => command.map fun c => replaceAll m a (c.length + 1) c
  | none =>
    let groups :=
      match (g.value? 'L').bind natural?, (g.value? 'n').bind natural? with
      | some k, none => groupsOfLines k (xs.length + 1) xs
      | _, some k => groupsOf k (xs.length + 1) (xs.map (·.1))
      | none, none => if xs.isEmpty then [] else [xs.map (·.1)]
    (if groups.isEmpty && !g.has 'r' then [[]] else groups).map (command ++ ·)

/-- Runs commands one after the other, and gives the status that tells how they ended. -/
def runCommands (ev : Evaluator) (shows : Bool) : Nat → List (List Chars) → Act Nat
  | status, [] => return status
  | status, args :: rest => do
    let name := args.headD []
    if shows then err (lineOf (List.intercalate [' '] args))
    match ← ev.exec args with
    | .ok (.exited 0) => runCommands ev shows status rest
    | .ok (.exited 255) => do
      warn (name ++ ": exited with status 255; aborting".toList)
      return 124
    | .ok (.exited _) => runCommands ev shows 123 rest
    | .ok (.signaled n) => do
      warn (name ++ ": terminated by signal ".toList ++ shown n)
      return 125
    | .error e => do
      warn (name ++ ": ".toList ++ reason e)
      return unstartedStatus e

/-- Runs a program for arguments that are read. -/
def xargs : Tool := fun ev args => do
  let g ← options (words [('0', "null"), ('r', "no-run-if-empty"), ('t', "verbose"), ('x', "exit"),
    ('p', "interactive"), ('o', "open-tty")] ++
    valuedWords [('n', "max-args"), ('I', ""), ('L', "max-lines"), ('d', "delimiter"),
      ('P', "max-procs"), ('a', "arg-file"), ('s', "max-chars"), ('E', "")] ++
    [⟨'i', "replace", .optional⟩]) false 1 args
  let command := if g.operands.isEmpty then ["echo".toList] else g.operands
  let text ←
    match g.value? 'a' with
    | none => readAll 0
    | some f =>
      match ← textOf f with
      | .ok text => pure text
      | .error e =>
        refuse 1 ("Cannot open input file ".toList ++ quoted f ++ ": ".toList ++ reason e)
  let found := items g text
  lead 0 (some (← openAt .nowhere))
  match found.unmatched with
  | some kind => do
    if !found.arguments.isEmpty then
      let _ ← runCommands ev (g.has 't') 0 (commandsFor g command found.arguments)
    refuse 1 (("unmatched " ++ kind ++ " quote; by default quotes are special to xargs " ++
      "unless you use the -0 option").toList)
  | none => runCommands ev (g.has 't') 0 (commandsFor g command found.arguments)

/-! ## 3. The system -/

/-- Shows where programs stand. -/
def which : Tool := fun _ args => do
  let g ← options (plain "as") false 2 args
  let fs ← fs
  let p ← process
  let results ← g.operands.mapM fun name => do
    let paths := (Search.candidates (searchList p) name).filter fun path =>
      (fs.stat? (toPath path)).any Search.isStartable
    let paths := if g.has 'a' then paths else paths.take 1
    put (paths.flatMap lineOf)
    return !paths.isEmpty
  return statusOfAll results

/-- Lets what waits in the background run. -/
def sleep : Tool := fun ev args => do
  let g ← options [] false 1 args
  if g.operands.isEmpty then misuse 1 "missing operand".toList
  g.operands.forM fun a => do
    let fits :=
      match Quantity.readDecimal? a with
      | some (_, _, []) => true
      | some (_, _, [c]) => "smhd".toList.contains c
      | _ => a = "inf".toList || a = "infinity".toList
    if !fits then misuse 1 ("invalid time interval ".toList ++ quoted a)
  runPending ev pendingLimit
  return 0

/-- Sends signals. -/
def kill : Tool := fun ev args => do
  change fun p => { p with label := none }
  Builtin.kill ev args

/-- Tells about the system. -/
def uname : Tool := fun _ args => do
  let g ← options (words [('a', "all"), ('s', "kernel-name"), ('n', "nodename"),
    ('r', "kernel-release"), ('v', "kernel-version"), ('m', "machine"), ('o', "operating-system"),
    ('p', "processor"), ('i', "hardware-platform")]) true 1 args
  let parts : List (Char × String) :=
    [('s', "Linux"), ('n', "localhost"), ('r', "6.0.0"), ('v', "#1 SMP"), ('m', "x86_64"),
     ('o', "GNU/Linux")]
  let wanted :=
    if g.options.isEmpty then ["Linux"]
    else (parts.filter fun x => g.has x.1 || g.has 'a').map (·.2)
  put (lineOf (List.intercalate [' '] (wanted.map String.toList)))
  return 0

/-- Tells who runs the program. -/
def whoami : Tool := fun _ _ => do
  put "root\n".toList
  return 0

/-- Tells who runs the program, by numbers and names. -/
def userIds : Tool := fun _ args => do
  let g ← options (words [('u', "user"), ('g', "group"), ('G', "groups"), ('n', "name"),
    ('r', "real")]) true 1 args
  if g.has 'u' || g.has 'g' || g.has 'G' then
    put (if g.has 'n' then "root\n".toList else "0\n".toList)
  else put "uid=0(root) gid=0(root) groups=0(root)\n".toList
  return 0

end DeviceKeys.Tool
