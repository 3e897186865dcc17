import DeviceKeys.Shell.Builtin.Basic
import DeviceKeys.Shell.Expansion

/-! # Commands on variables

`export`, `readonly`, `local`, `unset`, `set`, `shift`, `read`, `getopts`, `alias` and `unalias`.

* `local` keeps the variable as it was, to be put back when the function ends (`Process.saved`).
* `read` splits a line at separators. The last variable takes what is left, without the white space
  at its end; characters behind a backslash never separate (`Reading.split`).
-/

namespace DeviceKeys.Shell

namespace Builtin

open Act

/-! ## 1. Setting variables -/

/-- Splits an argument at its first equals sign. -/
def split (a : Chars) : Chars × Option Chars :=
  let name := a.takeWhile (· ≠ '=')
  (name, if name.length < a.length then some (a.drop (name.length + 1)) else none)

/-- Refuses what is no name. -/
def checkName (name : Chars) : Act Unit := do
  if isName name then return else fault (name ++ ": bad variable name".toList)

/-- The lines for variables, in the order of their names. -/
def listing (front : Chars) (vs : List (Chars × Variable)) : Chars :=
  let inOrder (a b : Chars × Variable) : Bool := !decide (b.1 < a.1)
  (vs.mergeSort inOrder).flatMap fun (name, v) =>
    lineOf (front ++ name ++ v.value.elim [] fun value => '=' :: quoted value)

/-- Marks variables, which may be given values, and lists those marked without any. -/
def mark (front : String) (isMarked : Variable → Bool) (put : Variable → Variable) : Builtin :=
  fun _ args => do
    match ← options "p" args with
    | ([], []) => pure ()
    | ([], names) =>
      names.forM fun a => do
        let (name, value) := split a
        checkName name
        match value with
        | some value => assign name value false
        | none => pure ()
        change fun p =>
          withVariable p name (put ((binding? p name).getD ⟨none, false, false⟩))
      return 0
    | _ => pure ()
    out (listing (front ++ " ").toList ((← process).bindings.filter fun v => isMarked v.2))
    return 0

/-- Lets programs that are started receive variables. -/
def exports : Builtin := mark "export" (·.exported) fun v => { v with exported := true }

/-- Lets variables no longer be changed. -/
def readonlys : Builtin := mark "readonly" (·.fixed) fun v => { v with fixed := true }

/-- Keeps a variable to be put back when the function ends. -/
def keep (name : Chars) : Act Unit :=
  change fun p =>
    match p.saved with
    | [] => p
    | s :: rest => { p with saved := ((name, binding? p name) :: s) :: rest }

/-- Puts the variables back that were kept. -/
def putBack : Act Unit :=
  change fun p =>
    match p.saved with
    | [] => p
    | kept :: rest =>
      kept.foldl (fun p (name, v) =>
        match v with
        | some v => withVariable p name v
        | none => withoutVariable p name) { p with saved := rest }

/-- Gives variables to a function for its time alone. -/
def locals : Builtin := fun _ args => do
  if (← process).calls = 0 then fault "not in a function".toList
  args.forM fun a => do
    if a ≠ ['-'] then
      let (name, value) := split a
      checkName name
      keep name
      match value with
      | some value => assign name value false
      | none => pure ()
  return 0

/-- Takes variables away, or functions. -/
def unset : Builtin := fun _ args => do
  let (os, names) ← options "vf" args
  if (os.getLast?.map (·.1)) = some 'f' then
    change fun p => { p with functions := p.functions.filter fun f => !names.contains f.1 }
  else
    names.forM fun name => do
      checkName name
      if ((binding? (← process) name).any (·.fixed)) then
        fault (name ++ ": is read only".toList)
      change fun p => withoutVariable p name
  return 0

/-! ## 2. Options and arguments of the shell -/

/-- The options by name, with their letters. -/
def optionNames : List (String × Option Char) :=
  [("errexit", some 'e'), ("noglob", some 'f'), ("ignoreeof", some 'I'), ("interactive", some 'i'),
   ("monitor", some 'm'), ("noexec", some 'n'), ("stdin", some 's'), ("xtrace", some 'x'),
   ("verbose", some 'v'), ("vi", some 'V'), ("emacs", some 'E'), ("noclobber", some 'C'),
   ("allexport", some 'a'), ("notify", some 'b'), ("nounset", some 'u'), ("privileged", some 'p'),
   ("nolog", none), ("debug", none)]

/-- Sets or clears an option. -/
def turn (on : Bool) (c : Char) : Act Unit :=
  change fun p =>
    let others := p.options.filter (· ≠ c)
    { p with options := if on then c :: others else others }

/-- Lists all options. -/
def listOptions (on : Bool) : Act Unit := do
  let p ← process
  let isOn (c : Option Char) : Bool := c.any p.options.contains
  if on then
    out "Current option settings\n".toList
    out (optionNames.flatMap fun (name, c) =>
      name.toList ++ List.replicate (16 - name.length) ' ' ++
        lineOf (if isOn c then "on" else "off").toList)
  else
    out (optionNames.flatMap fun (name, c) =>
      lineOf ((if isOn c then "set -o " else "set +o ") ++ name).toList)

/-- Sets or clears an option by its name. -/
def turnNamed (on : Bool) (name : Chars) : Act Unit := do
  match optionNames.lookup (String.ofList name) with
  | some (some c) => turn on c
  | some none => return
  | none => fault ("Illegal option -o ".toList ++ name)

/-- Sets and clears options by letters. Gives the arguments left: an option by name takes one. -/
def turnLetters (on : Bool) : Chars → List Chars → Act (List Chars)
  | [], args => return args
  | c :: r, args => do
    if c = 'o' then
      match args with
      | [] => do
        listOptions on
        turnLetters on r []
      | name :: rest => do
        turnNamed on name
        turnLetters on r rest
    else if optionNames.any (·.2 = some c) then
      turn on c
      turnLetters on r args
    else fault ("Illegal option -".toList ++ [c])

/-- Gives the shell new arguments. -/
def setArguments (args : List Chars) : Act Unit :=
  change fun p => { p with arguments := args, optionIndex := 1, optionPlace := 0 }

/-- Sets and clears options. Gives the arguments left, if there are any to be set. -/
def setOptions : Nat → List Chars → Act (Option (List Chars))
  | 0, _ => return none
  | n + 1, args => do
    match args with
    | ['-'] :: rest => do
      turn false 'x'
      turn false 'v'
      return if rest.isEmpty then none else some rest
    | ['-', '-'] :: rest => return some rest
    | ('-' :: letters) :: rest => setOptions n (← turnLetters true letters rest)
    | ('+' :: letters) :: rest => setOptions n (← turnLetters false letters rest)
    | [] => return none
    | args => return some args

/-- Sets options and arguments of the shell, or lists the variables. -/
def set : Builtin := fun _ args => do
  if args.isEmpty then
    out (listing [] ((← process).bindings.filter fun v => v.2.value.isSome))
    return 0
  else
    match ← setOptions (args.length + 1) args with
    | some args => setArguments args
    | none => pure ()
    return 0

/-- Drops the first arguments of the shell. -/
def shift : Builtin := fun _ args => do
  let n ← match args with
    | [] => pure 1
    | a :: _ => natural a
  let p ← process
  if p.arguments.length < n then fault "can't shift that many".toList
  else
    setArguments (p.arguments.drop n)
    return 0

/-! ## 3. Reading a line -/

namespace Reading

/-- Takes a line of input. A backslash protects the next character, and joins the next line, unless
    `plain`. A character has a mark that says whether it may separate. Gives also whether the line
    was ended, and what stands behind it. -/
def line (plain : Bool) : Nat → Chars → List (Char × Bool) × Bool × Chars
  | 0, s => ([], false, s)
  | _, [] => ([], false, [])
  | n + 1, c :: r =>
    let cons (p : Char × Bool) (q : List (Char × Bool) × Bool × Chars) := (p :: q.1, q.2)
    if c = '\n' then ([], true, r)
    else if c = Char.ofNat 0 then line plain n r
    else if c = '\\' && !plain then
      match r with
      | [] => ([], false, [])
      | '\n' :: r => line plain n r
      | d :: r => cons (d, false) (line plain n r)
    else cons (c, true) (line plain n r)

/-- The field that takes what is left of a line. `cut` is the length to which it is cut, and `gap`
    says that white space has just separated. -/
def last (separators : Chars) : Chars → Option Nat → Bool → List (Char × Bool) → Chars
  | acc, cut, _, [] => cut.elim acc.reverse fun n => acc.reverse.take n
  | acc, cut, gap, (c, separates) :: r =>
    if !separates then last separators (c :: acc) cut false r
    else
      let isSeparator := separators.contains c
      if isSeparator && Fields.isWhite c then
        last separators (c :: acc) (cut.or (some acc.length)) gap r
      else
        last separators (c :: acc) (if isSeparator && gap then cut else none) false r

/-- Splits a line into so many fields, or fewer. `gap` says that white space has just separated. -/
def split (separators : Chars) : Nat → Chars → Bool → List (Char × Bool) → List Chars
  | _, acc, _, [] => if acc.isEmpty then [] else [acc.reverse]
  | count, acc, gap, (c, separates) :: r =>
    let isSeparator := separates && separators.contains c
    let isWhite := isSeparator && Fields.isWhite c
    if isWhite && (gap || acc.isEmpty) then split separators count acc gap r
    else if isSeparator && gap then split separators count acc false r
    else if isSeparator then
      if count ≤ 1 then
        let field := last separators (c :: acc) (some acc.length) isWhite r
        if field.isEmpty then [] else [field]
      else acc.reverse :: split separators (count - 1) [] isWhite r
    else split separators count (c :: acc) false r

end Reading

/-- Gives fields to variables; those left get nothing. -/
def share : List Chars → List Chars → Act Unit
  | [], _ => return
  | name :: names, fields => do
    assign name (fields.headD []) false
    share names (fields.drop 1)

/-- Reads a line into variables. -/
def read : Builtin := fun _ args => do
  let (os, names) ← options "p:r" args
  if names.isEmpty then fault "arg count".toList
  names.forM checkName
  let plain := os.any (·.1 = 'r')
  let (line, ended) ← readSome 0 fun text =>
    let (line, ended, rest) := Reading.line plain (text.length + 1) text
    ((line, ended), rest)
  let separators := Expansion.separators (← process)
  share names (Reading.split separators names.length [] false line)
  return statusIf ended

/-! ## 4. Reading options -/

/-- The text of an argument behind a place in it, if there is one. -/
def optionRest (p : Process) (args : List Chars) : Option Chars :=
  if p.optionIndex ≤ 1 || p.optionPlace = 0 then none
  else
    let a := (args[p.optionIndex - 2]?).getD []
    if a.length < p.optionPlace then none else some (a.drop p.optionPlace)

/-- What has been found out about the next option: its letter, the value (none takes the variable
    away), what is left of its argument, and the arguments behind. -/
structure FoundOption where
  letter : Char
  value : Option Chars
  rest : Chars
  behind : List Chars

/-- Finds out about the option with a letter. -/
def findOption (allowed : Chars) (c : Char) (rest : Chars) (behind : List Chars) :
    Act FoundOption := do
  let silent := allowed.head? = some ':'
  match allowed.dropWhile (· ≠ c) with
  | [] =>
    if silent then return ⟨'?', some [c], rest, behind⟩
    else
      err ("Illegal option -".toList ++ [c, '\n'])
      return ⟨'?', none, rest, behind⟩
  | _ :: ':' :: _ =>
    match rest, behind with
    | [], [] =>
      if silent then return ⟨':', some [c], [], []⟩
      else
        err ("No arg for -".toList ++ [c] ++ " option\n".toList)
        return ⟨'?', none, [], []⟩
    | [], value :: behind => return ⟨c, some value, [], behind⟩
    | rest, behind => return ⟨c, some rest, [], behind⟩
  | _ => return ⟨c, some [], rest, behind⟩

/-- Takes the next option from arguments. -/
def nextOption (allowed name : Chars) (args : List Chars) : Act Nat := do
  let p ← process
  let ended (behind : List Chars) : Act Nat := do
    let index := args.length - behind.length + 1
    assign "OPTIND".toList (Arithmetic.shown index) false
    assign name ['?'] false
    change fun p => { p with optionIndex := index, optionPlace := 0 }
    return 1
  let go (c : Char) (rest : Chars) (behind : List Chars) : Act Nat := do
    let found ← findOption allowed c rest behind
    let optarg := "OPTARG".toList
    match found.value with
    | some value => assign optarg value false
    | none => change fun p => withoutVariable p optarg
    let index := args.length - found.behind.length + 1
    assign "OPTIND".toList (Arithmetic.shown index) false
    assign name [found.letter] false
    let whole := ((args[index - 2]?).getD []).length
    change fun p =>
      { p with
        optionIndex := index
        optionPlace := if found.rest.isEmpty then 0 else whole - found.rest.length }
    return 0
  match optionRest p args with
  | some (c :: rest) => go c rest (args.drop (p.optionIndex - 1))
  | _ =>
    let here := args.drop (max p.optionIndex 1 - 1)
    match here with
    | ['-', '-'] :: behind => ended behind
    | ('-' :: c :: rest) :: behind => go c rest behind
    | here => ended here

/-- Takes the next option from the arguments of the shell, or from those given. -/
def getopts : Builtin := fun _ args => do
  match args with
  | allowed :: name :: given => do
    let own := (← process).arguments
    nextOption allowed name (if given.isEmpty then own else given)
  | _ => fault "Usage: getopts optstring var [arg...]".toList

/-! ## 5. Names that stand for other words -/

/-- The text that sets a name for other words. -/
def aliasText (a : Chars × Chars) : Chars := a.1 ++ '=' :: quoted a.2

/-- Lets names stand for other words, or shows what they stand for. -/
def aliasing : Builtin := fun _ args => do
  if args.isEmpty then
    let inOrder (a b : Chars × Chars) : Bool := !decide (b.1 < a.1)
    out (((← process).aliases.mergeSort inOrder).flatMap fun a => lineOf (aliasText a))
    return 0
  else
    let results ← args.mapM fun a => do
      match split a with
      | (name, some text) => do
        change fun p => { p with aliases := (name, text) :: p.aliases.filter (·.1 ≠ name) }
        return 0
      | (name, none) =>
        match (← process).aliases.lookup name with
        | some text => do
          out (lineOf (aliasText (name, text)))
          return 0
        | none => do
          err (lineOf ("alias: ".toList ++ name ++ " not found".toList))
          return 1
    return results.foldl max 0

/-- Lets names no longer stand for other words. -/
def unalias : Builtin := fun _ args => do
  let (os, names) ← options "a" args
  if !os.isEmpty then
    change fun p => { p with aliases := [] }
    return 0
  else
    let results ← names.mapM fun name => do
      if (← process).aliases.any (·.1 = name) then
        change fun p => { p with aliases := p.aliases.filter (·.1 ≠ name) }
        return 0
      else
        err (lineOf ("unalias: ".toList ++ name ++ " not found".toList))
        return 1
    return results.foldl max 0

end Builtin

end DeviceKeys.Shell
