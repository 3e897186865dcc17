import DeviceKeys.Shell.Redirection

/-! # Programs of the system

A `Tool` is a program that a script can start: it takes its arguments and gives its status.

* Options are letters behind a hyphen or words behind two (`Flag`); operands may stand among them.
  Two hyphens alone end the options.
* A program tells what is wrong under the name by which it was started.
-/

namespace DeviceKeys

open Shell (Chars Act Evaluator)

/-- A program of the system. -/
abbrev Tool := Evaluator → List Chars → Act Nat

namespace Tool

open Shell Act

/-! ## 1. Messages -/

/-- The name by which the program was started. -/
def ownName : Act Chars := return (← process).name

/-- Tells what is wrong. -/
def warn (text : Chars) : Act Unit := do
  err ((← ownName) ++ ": ".toList ++ text ++ ['\n'])

/-- Tells what is wrong and where to find help, and ends with a status. -/
def misuse {α : Type} (status : Nat) (text : Chars) : Act α := do
  warn text
  let name ← ownName
  err ("Try '".toList ++ name ++ " --help' for more information.\n".toList)
  ends status
  throw .exits

/-- Tells what is wrong and ends with a status. -/
def refuse {α : Type} (status : Nat) (text : Chars) : Act α := do
  warn text
  ends status
  throw .exits

/-- A text between single quotes. -/
def quoted (s : Chars) : Chars := '\'' :: s ++ ['\'']

/-- The character means nothing to a shell. -/
def isHarmless (c : Char) : Bool :=
  c.toNat < 128 && !" !\"$&'()*;<=>?[\\^|\t\n".toList.contains c && c ≠ Source.backquote

/-- A text between quotes as a message shows it, so that a shell could read it back. -/
def shellQuoted (s : Chars) : Chars :=
  if s.contains '\'' then
    if s.all fun c => isHarmless c || c = ' ' || c = '\'' then '"' :: s ++ ['"']
    else '\'' :: (s.flatMap fun c => if c = '\'' then "'\\''".toList else [c]) ++ ['\'']
  else quoted s

/-- A name as it stands in front of a message: between quotes only where it must be. -/
def nameShown (s : Chars) : Chars :=
  let lone := s = ['\x7b'] || s = ['\x7d'] || s.head? = some '#' || s.head? = some '~'
  if s.isEmpty || lone || !(s.all isHarmless) then shellQuoted s else s

/-- Writes to the output; a program that cannot write ends. -/
def put (text : Chars) : Act Unit := do
  if text.isEmpty || (← write 1 text) then return
  else
    match ← endpoint? 1 with
    | some _ => refuse 1 "write error: No space left on device".toList
    | none => refuse 1 "write error: Bad file descriptor".toList

/-! ## 2. Options -/

/-- What an option takes. -/
inductive Takes where
  | nothing
  | value
  | optional
  deriving DecidableEq

/-- An option: its letter, which also names an option without one, its word, and what it takes. -/
structure Flag where
  letter : Char
  word : String
  takes : Takes

/-- Options that take nothing, one for each letter. -/
def plain (letters : String) : List Flag := letters.toList.map fun c => ⟨c, "", .nothing⟩

/-- Options that take a value, one for each letter. -/
def valued (letters : String) : List Flag := letters.toList.map fun c => ⟨c, "", .value⟩

/-- Options with words that take nothing. -/
def words (l : List (Char × String)) : List Flag := l.map fun (c, w) => ⟨c, w, .nothing⟩

/-- Options with words that take a value. -/
def valuedWords (l : List (Char × String)) : List Flag := l.map fun (c, w) => ⟨c, w, .value⟩

/-- Options that were given, with their values, and the operands. -/
structure Given where
  options : List (Char × Chars)
  operands : List Chars

/-- An option was given. -/
def Given.has (g : Given) (c : Char) : Bool := g.options.any (·.1 = c)

/-- The value of an option that was given, the last one. -/
def Given.value? (g : Given) (c : Char) : Option Chars := g.options.reverse.lookup c

/-- The last option given among some. -/
def Given.last? (g : Given) (letters : String) : Option Char :=
  (g.options.reverse.find? fun o => letters.toList.contains o.1).map (·.1)

/-- The option with a word, which may be cut short. -/
def flagOf? (flags : List Flag) (word : Chars) : Option Flag :=
  match flags.find? fun f => f.word.toList = word with
  | some f => some f
  | none => flags.find? fun f => !f.word.isEmpty && word.isPrefixOf f.word.toList

/-- Reads options. `here` are letters of the argument begun, and `mixed` says that operands may stand
    in front of options. -/
def read (flags : List Flag) (mixed : Bool) : Nat → Chars → List Chars → Except Chars Given
  | 0, _, args => .ok ⟨[], args⟩
  | n + 1, here, args =>
    let option (o : Char × Chars) (here : Chars) (args : List Chars) : Except Chars Given :=
      (read flags mixed n here args).map fun g => { g with options := o :: g.options }
    match here, args with
    | [], [] => .ok ⟨[], []⟩
    | [], ['-', '-'] :: rest => .ok ⟨[], rest⟩
    | [], ('-' :: '-' :: word) :: rest =>
      let name := word.takeWhile (· ≠ '=')
      let given := if name.length < word.length then some (word.drop (name.length + 1)) else none
      match flagOf? flags name with
      | none => .error ("unrecognized option '--".toList ++ word ++ ['\''])
      | some f =>
        match f.takes, given, rest with
        | .nothing, some _, _ =>
          .error ("option '--".toList ++ f.word.toList ++ "' doesn't allow an argument".toList)
        | .nothing, none, rest => option (f.letter, []) [] rest
        | .optional, given, rest => option (f.letter, given.getD []) [] rest
        | .value, some v, rest => option (f.letter, v) [] rest
        | .value, none, v :: rest => option (f.letter, v) [] rest
        | .value, none, [] =>
          .error ("option '--".toList ++ f.word.toList ++ "' requires an argument".toList)
    | [], ('-' :: c :: r) :: rest => read flags mixed n (c :: r) rest
    | [], a :: rest =>
      if mixed then
        (read flags mixed n [] rest).map fun g => { g with operands := a :: g.operands }
      else .ok ⟨[], a :: rest⟩
    | c :: r, args =>
      match flags.find? fun f => f.letter = c with
      | none => .error ("invalid option -- '".toList ++ [c, '\''])
      | some f =>
        match f.takes, r, args with
        | .nothing, r, args => option (c, []) r args
        | .optional, r, args => option (c, r) [] args
        | .value, [], v :: rest => option (c, v) [] rest
        | .value, [], [] => .error ("option requires an argument -- '".toList ++ [c, '\''])
        | .value, r, args => option (c, r) [] args

/-- Reads options, or tells what is wrong with them and ends with a status. -/
def options (flags : List Flag) (mixed : Bool) (status : Nat) (args : List Chars) : Act Given := do
  match read flags mixed (2 * (args.flatten.length + args.length) + 2) [] args with
  | .ok g => return g
  | .error text => misuse status text

/-! ## 3. Input -/

/-- The text of the input, or of the file that a path names. -/
def textOf (path : Chars) : Act (Except IoFault Chars) := do
  if path = ['-'] then return .ok (← readAll 0)
  else
    match ← Redirection.openFile path .read with
    | .error e => return .error e
    | .ok n =>
      match (← get).files.lookup n with
      | some .directory => return .error .isDirectory
      | some e => do
        let text ← remaining e
        leave n e text.length []
        return .ok text
      | none => return .ok []

/-- The text of the input, or of the file that a path names; none when there is none, which is told.
-/
def textOrWarn (path : Chars) : Act (Option Chars) := do
  match ← textOf path with
  | .ok text => return some text
  | .error e => do
    warn (nameShown path ++ ": ".toList ++ reason e)
    return none

/-- Gives the last characters that were read back to the input, where that is a file. -/
def giveBack (count : Nat) : Act Unit := do
  match ← endpoint? 0 with
  | some (n, .file l position atEnd) => leads n (.file l (position - count) atEnd)
  | _ => return

/-- The lines of a text with their ends. -/
def fullLines (s : Chars) : List Chars :=
  let rec go : List Chars → Chars → Chars → List Chars
    | done, acc, [] => (if acc.isEmpty then done else acc.reverse :: done).reverse
    | done, acc, c :: r =>
      if c = '\n' then go ((c :: acc).reverse :: done) [] r else go done (c :: acc) r
  go [] [] s

/-- A line without its end. -/
def bareLine (s : Chars) : Chars := if s.getLast? = some '\n' then s.dropLast else s

/-- The lines of a text without their ends. -/
def linesOf (s : Chars) : List Chars := (fullLines s).map bareLine

/-- A text with the end of a line. -/
def lineOf (s : Chars) : Chars := s ++ ['\n']

/-- The natural number that a text of digits spells. -/
def natural? (s : Chars) : Option Nat :=
  if !s.isEmpty && s.all Char.isDigit then some (Arithmetic.digits 10 0 s).1 else none

/-- The text of a number. -/
def shown (n : Nat) : Chars := Arithmetic.shown n

/-- A text brought to a width by blanks on its left. -/
def rightAligned (width : Nat) (s : Chars) : Chars :=
  List.replicate (width - s.length) ' ' ++ s

end Tool

end DeviceKeys
