import DeviceKeys.Decimal.Quantity
import DeviceKeys.Regex.Syntax
import DeviceKeys.Tool.Basic

/-! # Programs of the stream editor

A program of `sed` is a row of commands (`Command`), each with the lines it works on and what it does
there (`Action`). Blocks lie flat in the row: a block's first command tells how many lie in it, and
is passed over with them where it does not apply.
-/

namespace DeviceKeys.Tool.Sed

open Shell

/-! ## 1. Commands -/

/-- What lines are compared with. Without an expression the last one that was used counts. -/
structure Matcher where
  regex : Option Regex
  fold : Bool
  multiline : Bool

/-- A line that a command works on. -/
inductive Address where
  | line (n : Nat)
  | last
  | fits (m : Matcher)
  | every (first step : Nat)

/-- The last line of several that a command works on. -/
inductive RangeEnd where
  | at (a : Address)
  | after (count : Nat)
  | multipleOf (n : Nat)

/-- How letters are written. -/
inductive LetterCase where
  | asIs
  | lower
  | upper
  deriving DecidableEq

/-- A piece of what is put in the place of a match: a text, a part of the match by its number, and how
    the letters behind, or the next alone, are written. -/
inductive Piece where
  | text (s : Chars)
  | part (n : Nat)
  | letters (c : LetterCase)
  | letter (c : LetterCase)

/-- How matches are replaced: what is sought, what is put there, from which match on, and whether all
    behind it are replaced; then whether the line is printed, run, and written to a file. -/
structure Substitution where
  sought : Matcher
  pieces : List Piece
  number : Option Nat
  all : Bool
  printed : Bool
  run : Bool
  file : Option Chars

/-- Where a text is put. -/
inductive Side where
  | above
  | below
  | instead
  deriving DecidableEq

/-- When a command goes on at a label: always, or if a replacement was made, or if none was. -/
inductive Condition where
  | always
  | replaced
  | unreplaced

/-- What a command does. -/
inductive Action where
  | block (length : Nat)
  | nothing
  | text (side : Side) (s : Chars)
  | jump (condition : Condition) (label : Chars)
  | delete
  | deleteFirst
  | run (command : Chars)
  | showName
  | recall
  | recallMore
  | keep
  | keepMore
  | exchange
  | list (width : Option Nat)
  | next
  | nextMore
  | print
  | printFirst
  | quit (printed : Bool) (status : Nat)
  | readFile (path : Chars)
  | readLine (path : Chars)
  | substitute (s : Substitution)
  | writeFile (path : Chars)
  | writeFirst (path : Chars)
  | exchangeLetters (pairs : List (Char × Char))
  | clear
  | showNumber

/-- A command: the first and the last line it works on, whether it works on the others instead, and
    what it does. -/
structure Command where
  first : Option Address
  last : Option RangeEnd
  others : Bool
  action : Action

/-- A program, with the places of its labels. -/
structure Program where
  commands : Array Command
  labels : List (Chars × Nat)

/-! ## 2. Marks for characters -/

/-- The value of a digit, if it is less than the base. -/
def digit? (base : Nat) (c : Char) : Option Nat :=
  (Quantity.hexDigit? c).bind fun n => if n < base then some n else none

/-- Reads the character that a backslash and what follows it stand for. -/
def mark? : Chars → Option (Char × Chars)
  | 'a' :: r => some (Char.ofNat 7, r)
  | 'f' :: r => some (Char.ofNat 12, r)
  | 'n' :: r => some ('\n', r)
  | 'r' :: r => some ('\r', r)
  | 't' :: r => some ('\t', r)
  | 'v' :: r => some (Char.ofNat 11, r)
  | 'c' :: c :: r => some (Char.ofNat (c.toUpper.toNat ^^^ 64), r)
  | 'd' :: r => numbered 10 3 'd' r
  | 'o' :: r => numbered 8 3 'o' r
  | 'x' :: r => numbered 16 2 'x' r
  | _ => none
where
  /-- Reads a character by its number; the letter itself when there is none. -/
  numbered (base most : Nat) (letter : Char) (r : Chars) : Option (Char × Chars) :=
    let ds := (r.take most).takeWhile fun c => (digit? base c).isSome
    if ds.isEmpty then some (letter, r)
    else
      let n := ds.foldl (fun n c => n * base + (digit? base c).getD 0) 0
      some (Char.ofNat (n % 256), r.drop ds.length)

/-- The text with marks put into characters; other backslashes stay. -/
def withoutMarks : Nat → Chars → Chars
  | 0, s => s
  | _, [] => []
  | n + 1, '\\' :: r =>
    match mark? r, r with
    | some ('\\', r), _ => '\\' :: '\\' :: withoutMarks n r
    | some (c, r), _ => c :: withoutMarks n r
    | none, c :: r => '\\' :: c :: withoutMarks n r
    | none, [] => ['\\']
  | n + 1, c :: r => c :: withoutMarks n r

/-! ## 3. Texts up to a delimiter -/

/-- Takes what brackets hold, behind the opening one, with the closing one. `state` counts how far
    a name between points, colons or equals signs has come, and `sign` is the sign it began with. -/
def bracketed (state : Nat) (sign : Char) (taken : Chars) : Chars → Option (Chars × Chars)
  | [] => none
  | c :: r =>
    let isSign := c = '.' || c = ':' || c = '='
    if c = '\n' then none
    else if isSign && state = 1 then bracketed 2 c (c :: taken) r
    else if isSign && state = 2 && c = sign then bracketed 3 sign (c :: taken) r
    else if c = '[' then bracketed (if state = 0 then 1 else state) sign (c :: taken) r
    else if c = ']' && state ≤ 1 then some (c :: taken, r)
    else if c = ']' && state = 3 then bracketed 0 sign (c :: taken) r
    else bracketed (if state = 1 then 0 else if state = 3 then 2 else state) sign (c :: taken) r

/-- Takes brackets behind the opening one; a closing one in front stands for itself. -/
def bracketPart (taken : Chars) (s : Chars) : Option (Chars × Chars) :=
  match s with
  | '^' :: ']' :: r => bracketed 0 ' ' (']' :: '^' :: taken) r
  | '^' :: r => bracketed 0 ' ' ('^' :: taken) r
  | ']' :: r => bracketed 0 ' ' (']' :: taken) r
  | r => bracketed 0 ' ' taken r

/-- Takes a text up to a delimiter, with the text left behind; none without the delimiter. In an
    expression a delimiter in brackets does not count. -/
def delimited (isRegex : Bool) (d : Char) : Nat → Chars → Chars → Option Chars × Chars
  | 0, _, s => (none, s)
  | _, _, [] => (none, [])
  | n + 1, taken, c :: r =>
    if c = d then (some taken.reverse, r)
    else if c = '\n' then (none, c :: r)
    else if c = '\\' then
      match r with
      | [] => (none, [])
      | e :: r =>
        if e = 'n' && isRegex then delimited isRegex d n ('\n' :: taken) r
        else if e = '\n' || (e = d && (isRegex || e ≠ '&')) then delimited isRegex d n (e :: taken) r
        else delimited isRegex d n (e :: c :: taken) r
    else if c = '[' && isRegex then
      match bracketPart (c :: taken) r with
      | some (taken, r) => delimited isRegex d n taken r
      | none => (none, r.dropWhile (· ≠ '\n'))
    else delimited isRegex d n (c :: taken) r

/-! ## 4. Reading -/

/-- Reads a text, which is left where a fault was found. -/
abbrev Reader := ExceptT String (StateM Chars)

/-- A text between the quotes of a message. -/
def named (s : String) : String := String.singleton Source.backquote ++ s ++ "'"

/-- The next character, which is taken. -/
def next : Reader (Option Char) := do
  match ← get with
  | [] => return none
  | c :: r => do
    set r
    return some c

/-- Puts a character back. -/
def back (c : Option Char) : Reader Unit := modify fun s => c.elim s (· :: s)

/-- The next character that is no blank, which is taken. -/
def nextFull : Reader (Option Char) := do
  modify fun s => s.dropWhile fun c => c = ' ' || c = '\t'
  next

/-- The character is a space of any kind. -/
def isSpace (c : Char) : Bool := Pattern.isInClass "space" c

/-- Takes characters while they are wanted. -/
def takeAll (wanted : Char → Bool) : Reader Chars := do
  let s ← get
  set (s.dropWhile wanted)
  return s.takeWhile wanted

/-- Reads a number that may be missing. -/
def number : Reader Nat := do
  return Quantity.ofDigits (← takeAll Char.isDigit)

/-- Checks that a command ends. -/
def endOfCommand : Reader Unit := do
  match ← nextFull with
  | none => return
  | some c =>
    if c = '\x7d' || c = '#' then back c
    else if c ≠ '\n' && c ≠ ';' then throw "extra characters after command"

/-- Reads a text up to a delimiter. -/
def part (isRegex : Bool) (d : Char) (fault : String) : Reader Chars := do
  let s ← get
  let (text, rest) := delimited isRegex d (s.length + 1) [] s
  set rest
  match text with
  | some t => return t
  | none => throw fault

/-- What an expression and the letters behind it ask for. `parts` is the greatest number of a part of
    the match that is used. -/
def matcher (isExtended : Bool) (text : Chars) (fold multiline : Bool) (parts : Nat) :
    Reader Matcher := do
  if text.isEmpty then return ⟨none, fold, multiline⟩
  else
    match Regex.read ⟨isExtended, false, true⟩ (withoutMarks (text.length + 1) text) with
    | .error e => throw e.message
    | .ok r =>
      if r.groups < parts then
        throw ("invalid reference \\" ++ toString parts ++ " on " ++ named "s" ++ " command's RHS")
      else return ⟨some r, fold, multiline⟩

/-- Reads the letters behind the expression of an address. -/
def addressLetters : Nat → Bool → Bool → Reader (Bool × Bool)
  | 0, fold, multiline => return (fold, multiline)
  | n + 1, fold, multiline => do
    match ← nextFull with
    | some 'I' => addressLetters n true multiline
    | some 'M' => addressLetters n fold true
    | c => do
      back c
      return (fold, multiline)

/-- Reads an address that starts with a character; none when it starts no address. -/
def address? (isExtended : Bool) (c : Char) : Reader (Option RangeEnd) := do
  let regex (d : Char) : Reader (Option RangeEnd) := do
    let text ← part true d "unterminated address regex"
    let (fold, multiline) ← addressLetters ((← get).length + 1) false false
    return some (.at (.fits (← matcher isExtended text fold multiline 0)))
  if c = '/' then regex '/'
  else if c = '\\' then
    match ← next with
    | some d => regex d
    | none => throw "unterminated address regex"
  else if c.isDigit then
    back c
    let n ← number
    match ← nextFull with
    | some '~' => do
      modify fun s => s.dropWhile fun c => c = ' ' || c = '\t'
      let step ← number
      return some (.at (if step = 0 then .line n else .every n step))
    | c => do
      back c
      return some (.at (.line n))
  else if c = '+' || c = '~' then
    modify fun s => s.dropWhile fun c => c = ' ' || c = '\t'
    let n ← number
    return some (if c = '+' then .after n else .multipleOf n)
  else if c = '$' then return some (.at .last)
  else return none

/-- The pieces of a replacement, a count of characters at most. -/
def pieces : Nat → Chars → List Piece
  | 0, _ => []
  | _, [] => []
  | n + 1, '&' :: r => .part 0 :: pieces n r
  | _ + 1, ['\\'] => [.text ['\\']]
  | n + 1, '\\' :: c :: r =>
    if c.isDigit then .part (c.toNat - '0'.toNat) :: pieces n r
    else
      match c with
      | 'L' => .letters .lower :: pieces n r
      | 'U' => .letters .upper :: pieces n r
      | 'E' => .letters .asIs :: pieces n r
      | 'l' => .letter .lower :: pieces n r
      | 'u' => .letter .upper :: pieces n r
      | c =>
        match mark? (c :: r) with
        | some (m, r) => .text [m] :: pieces n r
        | none => .text [c] :: pieces n r
  | n + 1, c :: r => .text [c] :: pieces n r

/-- The greatest number of a part of the match among pieces. -/
def greatestPart (ps : List Piece) : Nat :=
  ps.foldl (fun n p =>
    match p with
    | .part m => max n m
    | _ => n) 0

/-- Reads the path behind a command, which goes up to the end of the line. -/
def path : Reader Chars := do
  modify fun s => s.dropWhile fun c => c = ' ' || c = '\t'
  let p ← takeAll (· ≠ '\n')
  let _ ← next
  if p.isEmpty then throw "missing filename in r/R/w/W commands"
  return p

/-- Reads the letters behind a replacement, with whether case and the ends of inner lines count. -/
def substitutionLetters : Nat → Substitution → Bool → Bool → Reader (Substitution × Bool × Bool)
  | 0, s, fold, multiline => return (s, fold, multiline)
  | n + 1, s, fold, multiline => do
    let told (text : String) : String := text ++ " to " ++ named "s" ++ " command"
    let again (c : Char) : String := told ("multiple " ++ named (String.singleton c) ++ " options")
    match ← next with
    | none => return (s, fold, multiline)
    | some c =>
      if c = '\n' || c = ';' then return (s, fold, multiline)
      else if c = '\x7d' || c = '#' then
        back c
        return (s, fold, multiline)
      else if c = ' ' || c = '\t' then substitutionLetters n s fold multiline
      else if c = 'i' || c = 'I' then substitutionLetters n s true multiline
      else if c = 'm' || c = 'M' then substitutionLetters n s fold true
      else if c = 'e' then substitutionLetters n { s with run := true } fold multiline
      else if c = 'p' then
        if s.printed then throw (again 'p')
        else substitutionLetters n { s with printed := true } fold multiline
      else if c = 'g' then
        if s.all then throw (again 'g')
        else substitutionLetters n { s with all := true } fold multiline
      else if c = 'w' then return ({ s with file := some (← path) }, fold, multiline)
      else if c.isDigit then
        if s.number.isSome then throw (told "multiple number options")
        else
          back c
          let k ← number
          if k = 0 then throw (told "number option" ++ " may not be zero")
          else substitutionLetters n { s with number := some k } fold multiline
      else throw ("unknown option to " ++ named "s")

/-- Reads a replacement behind its letter. -/
def substitution (isExtended : Bool) : Reader Substitution := do
  let fault := "unterminated " ++ named "s" ++ " command"
  match ← next with
  | none => throw fault
  | some d =>
    if d = '\n' || d = '\\' then throw fault
    let text ← part true d fault
    let replacement ← part false d fault
    let ps := pieces (replacement.length + 1) replacement
    let start : Substitution := ⟨⟨none, false, false⟩, ps, none, false, false, false, none⟩
    let (s, fold, multiline) ← substitutionLetters ((← get).length + 1) start false false
    return { s with sought := ← matcher isExtended text fold multiline (greatestPart ps) }

/-- The characters of a text, some of which stand behind a backslash. -/
def unquoted : Nat → Chars → Chars
  | 0, s => s
  | n + 1, '\\' :: r =>
    match mark? r, r with
    | some (c, r), _ => c :: unquoted n r
    | none, c :: r => c :: unquoted n r
    | none, [] => ['\\']
  | _, [] => []
  | n + 1, c :: r => c :: unquoted n r

/-- Reads pairs of letters. -/
def letterPairs : Reader (List (Char × Char)) := do
  let name := named "y" ++ " command"
  match ← next with
  | none => throw ("unterminated " ++ name)
  | some d =>
    let a ← part false d ("unterminated " ++ name)
    let b ← part false d ("unterminated " ++ name)
    let a := unquoted (a.length + 1) a
    let b := unquoted (b.length + 1) b
    if a.length ≠ b.length then
      throw ("strings for " ++ name ++ " are different lengths")
    else
      endOfCommand
      return a.zip b

/-- Reads lines of text, up to one that does not end in a backslash. True if the text may go on where
    the program does. -/
def textLines : Nat → Chars → Reader (Chars × Bool)
  | 0, taken => return (taken.reverse, false)
  | n + 1, taken => do
    match ← next with
    | none => return (('\n' :: taken).reverse, false)
    | some '\n' => return (('\n' :: taken).reverse, false)
    | some '\\' =>
      let s ← get
      match mark? s, s with
      | some (c, r), _ => do
        set r
        textLines n (c :: taken)
      | none, c :: r => do
        set r
        textLines n (c :: taken)
      | none, [] => return (('\n' :: taken).reverse, true)
    | some c => textLines n (c :: taken)

/-- Reads the text behind a command. -/
def givenText : Reader (Chars × Bool) := do
  let fault := "expected \\ after " ++ named "a" ++ ", " ++ named "c" ++ " or " ++ named "i"
  let length := (← get).length + 1
  match ← nextFull with
  | none => throw fault
  | some '\n' => throw fault
  | some '\\' =>
    match ← next with
    | none => return ([], true)
    | some '\n' => textLines length []
    | some c => do
      back c
      textLines length []
  | some c => do
    back c
    textLines length []

/-- What has been read: the commands, the last first, the places where blocks begin with the numbers
    of the texts they begin in, and whether a text goes on. -/
structure Building where
  commands : Array Command
  labels : List (Chars × Nat)
  blocks : List (Nat × Nat)
  goesOn : Bool

/-- Reads a label. -/
def label : Reader Chars := do
  modify fun s => s.dropWhile fun c => c = ' ' || c = '\t'
  takeAll fun c => !isSpace c && c ≠ ';' && c ≠ '\x7d'

/-- Reads a number that may stand behind a command. -/
def optionalNumber : Reader (Option Nat) := do
  modify fun s => s.dropWhile fun c => c = ' ' || c = '\t'
  let ds ← takeAll Char.isDigit
  endOfCommand
  return natural? ds

/-- Reads an action that starts with a letter, with whether its text goes on. -/
def action (isExtended : Bool) (ranged : Bool) (c : Char) : Reader (Action × Bool) := do
  let alone (a : Action) : Reader (Action × Bool) := do
    endOfCommand
    return (a, false)
  let text (side : Side) : Reader (Action × Bool) := do
    let (t, goesOn) ← givenText
    return (.text side t, goesOn)
  match c with
  | 'a' => text .below
  | 'i' => text .above
  | 'c' => text .instead
  | 'b' => return (.jump .always (← label), false)
  | 't' => return (.jump .replaced (← label), false)
  | 'T' => return (.jump .unreplaced (← label), false)
  | 'd' => alone .delete
  | 'D' => alone .deleteFirst
  | 'e' => do
    modify fun s => s.dropWhile fun c => c = ' ' || c = '\t'
    let command ← takeAll (· ≠ '\n')
    let _ ← next
    return (.run command, false)
  | 'F' => alone .showName
  | 'g' => alone .recall
  | 'G' => alone .recallMore
  | 'h' => alone .keep
  | 'H' => alone .keepMore
  | 'x' => alone .exchange
  | 'l' => return (.list (← optionalNumber), false)
  | 'n' => alone .next
  | 'N' => alone .nextMore
  | 'p' => alone .print
  | 'P' => alone .printFirst
  | 'q' => do
    if ranged then throw "command only uses one address"
    return (.quit true ((← optionalNumber).getD 0), false)
  | 'Q' => do
    if ranged then throw "command only uses one address"
    return (.quit false ((← optionalNumber).getD 0), false)
  | 'r' => return (.readFile (← path), false)
  | 'R' => return (.readLine (← path), false)
  | 's' => return (.substitute (← substitution isExtended), false)
  | 'v' => do
    let _ ← label
    return (.nothing, false)
  | 'w' => return (.writeFile (← path), false)
  | 'W' => return (.writeFirst (← path), false)
  | 'y' => return (.exchangeLetters (← letterPairs), false)
  | 'z' => alone .clear
  | '=' => alone .showNumber
  | c => throw ("unknown command: " ++ named (String.singleton c))

/-- Reads the addresses of a command that starts with a character, and gives the next character. -/
def addresses (isExtended : Bool) (c : Char) :
    Reader (Option Address × Option RangeEnd × Option Char) := do
  match ← address? isExtended c with
  | none => return (none, none, some c)
  | some (.at first) => do
    match ← nextFull with
    | some ',' => do
      match ← nextFull with
      | none => throw ("unexpected " ++ named ",")
      | some c =>
        match ← address? isExtended c with
        | none => throw ("unexpected " ++ named ",")
        | some last => do
          let c ← nextFull
          match first, last with
          | .line 0, .at (.fits _) => return (first, last, c)
          | .line 0, _ => throw "invalid usage of line address 0"
          | _, _ => return (first, last, c)
    | c =>
      match first with
      | .line 0 => throw "invalid usage of line address 0"
      | _ => return (first, none, c)
  | some _ => throw "invalid usage of +N or ~N as first address"

/-- Reads the commands of a text, the number of which is given. -/
def commands (isExtended : Bool) (number : Nat) : Nat → Building → Reader Building
  | 0, b => return b
  | n + 1, b => do
    let _ ← takeAll fun c => isSpace c || c = ';'
    match ← next with
    | none => return b
    | some c =>
      let (first, last, c) ← addresses isExtended c
      let (others, c) ←
        if c = some '!' then do
          let c ← nextFull
          if c = some '!' then throw ("multiple " ++ named "!" ++ "s")
          pure (true, c)
        else pure (false, c)
      let place := b.commands.size
      let with' (a : Action) : Building :=
        { b with commands := b.commands.push ⟨first, last, others, a⟩ }
      match c with
      | none => throw "missing command"
      | some '#' => do
        if first.isSome then throw "comments don't accept any addresses"
        let _ ← takeAll (· ≠ '\n')
        commands isExtended number n b
      | some '\x7b' =>
        commands isExtended number n
          { with' (.block 0) with blocks := (place, number) :: b.blocks }
      | some '\x7d' =>
        match b.blocks with
        | [] => throw ("unexpected " ++ named "\x7d")
        | (start, _) :: blocks => do
          if first.isSome then
            throw (named "\x7d" ++ " doesn't want any addresses")
          endOfCommand
          let closed := b.commands.modify start fun c => { c with action := .block (place - start) }
          commands isExtended number n { b with commands := closed, blocks := blocks }
      | some ':' => do
        if first.isSome then throw ": doesn't want any addresses"
        let l ← label
        if l.isEmpty then throw "\":\" lacks a label"
        commands isExtended number n { b with labels := (l, place) :: b.labels }
      | some c => do
        let (a, goesOn) ← action isExtended last.isSome c
        commands isExtended number n { with' a with goesOn := goesOn }

/-- Reads the rest of the text of the last command where it goes on. -/
def goOn (b : Building) : Reader Building := do
  if b.goesOn then
    let (more, goesOn) ← textLines ((← get).length + 1) []
    let place := b.commands.size - 1
    let longer (c : Command) : Command :=
      match c.action with
      | .text side s => { c with action := .text side (s ++ more) }
      | _ => c
    return { b with commands := b.commands.modify place longer, goesOn := goesOn }
  else return b

/-- A text of a program: an argument, or a file by its name. -/
structure Given where
  text : Chars
  file : Option Chars

/-- Where in a text of a program a fault was found. -/
def placeOf (g : Given) (number : Nat) (rest : Chars) : Chars :=
  let taken := g.text.take (g.text.length - rest.length)
  match g.file with
  | some name =>
    "file ".toList ++ name ++ " line ".toList ++ shown ((taken.filter (· = '\n')).length + 1)
  | none =>
    "-e expression #".toList ++ shown number ++ ", char ".toList ++ shown taken.length

/-- Reads the texts of a program, the first of which has a number. -/
def readTexts (isExtended : Bool) : Nat → Building → List Given → Except Chars Building
  | _, b, [] => .ok b
  | number, b, g :: more =>
    let reader : Reader Building := do
      let b ← goOn b
      if g.text.isEmpty then return b
      else commands isExtended number (g.text.length + 1) b
    match reader.run.run g.text with
    | (.ok b, _) => readTexts isExtended (if g.file.isSome then number else number + 1) b more
    | (.error e, rest) => .error (placeOf g number rest ++ ": ".toList ++ e.toList)

/-- Reads a program. -/
def read (isExtended : Bool) (gs : List Given) : Except Chars Program := do
  let b ← readTexts isExtended 1 ⟨#[], [], [], false⟩ gs
  match b.blocks with
  | (_, number) :: _ =>
    throw ("-e expression #".toList ++ shown number ++ ", char 0: unmatched ".toList ++
      [Source.backquote, '\x7b', '\''])
  | [] =>
    let missing := b.commands.toList.findSome? fun c =>
      match c.action with
      | .jump _ l => if l.isEmpty || (b.labels.lookup l).isSome then none else some l
      | _ => none
    match missing with
    | some l =>
      throw ("can't find label for jump to ".toList ++ Source.backquote :: l ++ ['\''])
    | none => return ⟨b.commands, b.labels⟩

end DeviceKeys.Tool.Sed
