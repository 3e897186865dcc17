import DeviceKeys.Shell.Subshell
import DeviceKeys.Tool.Sed.Program
import DeviceKeys.Tool.Tree

/-! # The stream editor

`Tool.sed` works on lines by a program. It keeps two texts: the line it works on and one that is
kept from line to line (`State.line` and `State.kept`).

* What is printed goes to the output at the end, or into the file that is edited (`Sink`). The end
  of a last line that had none is written only when more follows.
* Commands run one after the other (`run`); behind the last the line is printed, and the program
  starts again on the next line.
-/

namespace DeviceKeys.Tool

open Shell Act

namespace Sed

/-! ## 1. Texts and files -/

/-- A line, and whether it had an end. -/
structure Line where
  text : Chars
  ended : Bool

/-- Texts that are to be written, the last first, and whether the end of a line is missing. -/
structure Sink where
  texts : List Chars
  unended : Bool

/-- A text that is printed behind the line: one that is given, or that of a file. -/
inductive Late where
  | text (s : Chars)
  | file (path : Chars)

/-- What the options ask for, and the ranges that are open from the start of a file. -/
structure Setting where
  quiet : Bool
  separate : Bool
  inPlace : Option Chars
  delimiter : Char
  width : Nat
  started : List (Nat × Option Nat)

/-- What the program has come to. A range that is open is kept by the place of its command, with the
    number of its last line if that is known. -/
structure State where
  line : Line
  kept : Line
  number : Nat
  name : Chars
  here : List Chars
  hereEnded : Bool
  files : List Chars
  opened : Bool
  broken : Nat
  printed : Sink
  written : List (Chars × Sink)
  read : List (Chars × List Chars)
  late : List Late
  replaced : Bool
  ranges : List (Nat × Option Nat)
  used : Option Regex

/-- What works on the state. -/
abbrev Work := StateT State Act

/-- Adds a text with the end of a line, or without. -/
def Sink.add (k : Sink) (delimiter : Char) (l : Line) : Sink :=
  let front := if k.unended then [delimiter] else []
  ⟨(front ++ l.text ++ if l.ended then [delimiter] else []) :: k.texts, !l.ended⟩

/-- Adds a text as it is. -/
def Sink.addText (k : Sink) (delimiter : Char) (s : Chars) : Sink :=
  if s.isEmpty then k
  else ⟨((if k.unended then [delimiter] else []) ++ s) :: k.texts, false⟩

/-- All that was added. -/
def Sink.whole (k : Sink) : Chars := k.texts.reverse.flatten

/-- The texts between delimiters, and whether the last one has a delimiter behind it. -/
def split (delimiter : Char) (s : Chars) : List Chars × Bool :=
  let parts := s.splitOn delimiter
  if parts.getLast? = some [] then (parts.dropLast, true) else (parts, false)

/-- Prints a line. -/
def printLine (set : Setting) (l : Line) : Work Unit :=
  modify fun s => { s with printed := s.printed.add set.delimiter l }

/-- Prints a text. -/
def printText (set : Setting) (text : Chars) : Work Unit :=
  modify fun s => { s with printed := s.printed.addText set.delimiter text }

/-- The name of the file that stands for the output. -/
def outputName : Chars := "/dev/stdout".toList

/-- Writes a line to a file. -/
def writeLine (set : Setting) (path : Chars) (l : Line) : Work Unit :=
  if path = outputName then printLine set l
  else
    modify fun s =>
      let old := (s.written.lookup path).getD ⟨[], false⟩
      { s with written := (path, old.add set.delimiter l) :: s.written.filter (·.1 ≠ path) }

/-- Prints what waits to be printed behind the line. -/
def printLate (set : Setting) : Work Unit := do
  let late := (← get).late
  modify fun s => { s with late := [] }
  late.reverse.forM fun l => do
    match l with
    | .text s => printText set s
    | .file path =>
      match (← get).written.lookup path with
      | some k => printText set k.whole
      | none =>
        match ← textOf (if path = "/dev/stdin".toList then ['-'] else path) with
        | .ok text =>
          if text.getLast? = some '\n' || text.isEmpty then printText set text
          else printLine set ⟨text, false⟩
        | .error _ => return

/-! ## 2. Lines -/

/-- Puts what was printed in the place of the file that is edited. -/
def finishFile (set : Setting) : Work Unit := do
  let s ← get
  match set.inPlace with
  | none => return
  | some suffix =>
    if s.opened then
      match ← target false s.name with
      | .ok (.found l) =>
        match ← target true s.name with
        | .ok (.found l') =>
          let old ← entryAt? l'
          let mode := (old.bind FileSystem.modeOf).getD 0o644
          if !suffix.isEmpty then
            let named :=
              if suffix.contains '*' then
                suffix.flatMap fun c => if c = '*' then ofBytes (l.headD []) else [c]
              else ofBytes (l.headD []) ++ suffix
            match ← entryAt? l with
            | some e => putAt (toBytes named :: l.tail) e
            | none => pure ()
          putAt l (.file mode (toBytes s.printed.whole))
        | _ => pure ()
      | _ => pure ()
      modify fun s => { s with printed := ⟨[], false⟩, opened := false }

/-- Opens the next file that can be read. False when there is none. -/
def openNext (set : Setting) : Nat → Work Bool
  | 0 => return false
  | n + 1 => do
    finishFile set
    let s ← get
    match s.files with
    | [] => return false
    | f :: more => do
      modify fun s => { s with files := more }
      let failed (code : Nat) (text : Chars) : Work Bool := do
        warn text
        modify fun s => { s with broken := max s.broken code }
        openNext set n
      match ← textOf f with
      | .ok text =>
        let (lines, ended) := split set.delimiter text
        let fresh := set.separate
        modify fun s =>
          { s with
            name := f
            here := lines
            hereEnded := ended
            opened := true
            number := if fresh then 0 else s.number
            ranges := if fresh then set.started else s.ranges }
        return true
      | .error .isDirectory =>
        if set.inPlace.isSome then
          failed 4 ("couldn't edit ".toList ++ f ++ ": not a regular file".toList)
        else refuse 4 ("read error on ".toList ++ f ++ ": Is a directory".toList)
      | .error e => failed 2 ("can't read ".toList ++ f ++ ": ".toList ++ reason e)

/-- Some of the files that are not open yet has lines. -/
def moreBehind : List Chars → Work Bool
  | [] => return false
  | f :: more => do
    if f = ['-'] then
      match ← endpoint? 0 with
      | some (_, e) => if (← remaining e).isEmpty then moreBehind more else return true
      | none => moreBehind more
    else
      match ← textOf f with
      | .ok [] => moreBehind more
      | .ok _ => return true
      | .error _ => moreBehind more

/-- The line is the last one. -/
def isLast (set : Setting) : Work Bool := do
  let s ← get
  if !s.here.isEmpty then return false
  else if set.separate then return true
  else return !(← moreBehind s.files)

/-- Takes the next line. None when there is none. -/
def takeLine (set : Setting) : Nat → Work (Option Line)
  | 0 => return none
  | n + 1 => do
    printLate set
    let s ← get
    match s.here with
    | l :: more =>
      let line : Line := ⟨l, !more.isEmpty || s.hereEnded⟩
      MonadState.set { s with here := more, number := s.number + 1, replaced := false }
      return some line
    | [] => if ← openNext set (s.files.length + 1) then takeLine set n else return none

/-! ## 3. Addresses -/

/-- The expression that lines are compared with. -/
def regexOf (m : Matcher) : Work Regex := do
  match m.regex with
  | some r => do
    modify fun s => { s with used := some r }
    return r
  | none =>
    match (← get).used with
    | some r => return r
    | none => refuse 1 "no previous regular expression".toList

/-- A line as it is compared. -/
def viewOf (m : Matcher) (r : Regex) (text : Chars) : Regex.View :=
  { r.lineView m.fold text with multiline := m.multiline }

/-- An address is that of the line. -/
def isAt (set : Setting) (a : Address) : Work Bool := do
  let s ← get
  match a with
  | .line n => return s.number = n
  | .last => isLast set
  | .every first step => return first ≤ s.number && (s.number - first) % step = 0
  | .fits m => do
    let r ← regexOf m
    return (r.search (viewOf m r s.line.text) 0).isSome

/-- Opens a range, or leaves it closed where it has one line only. -/
def openRange (set : Setting) (place : Nat) (last : RangeEnd) : Work Unit := do
  let n := (← get).number
  let opens (stop : Option Nat) : Work Unit :=
    modify fun s => { s with ranges := (place, stop) :: s.ranges.filter (·.1 ≠ place) }
  match last with
  | .at (.line m) => if n < m then opens (some m)
  | .at .last => if !(← isLast set) then opens none
  | .at _ => opens none
  | .after k => if 0 < k then opens (some (n + k))
  | .multipleOf m => if m ≠ 0 && n % m ≠ 0 then opens (some ((n / m + 1) * m))

/-- A command works on the line. -/
def applies (set : Setting) (place : Nat) (c : Command) : Work Bool := do
  match c.first, c.last with
  | none, _ => return true
  | some a, none => isAt set a
  | some a, some last => do
    let s ← get
    let closes : Work Unit := modify fun s => { s with ranges := s.ranges.filter (·.1 ≠ place) }
    let starts : Work Bool := do
      if ← isAt set a then
        openRange set place last
        return true
      else return false
    match s.ranges.lookup place with
    | none => starts
    | some (some stop) =>
      if s.number ≤ stop then
        if s.number = stop then closes
        return true
      else
        closes
        starts
    | some none => do
      match last with
      | .at b => if ← isAt set b then closes
      | _ => closes
      return true

/-! ## 4. Replacing -/

/-- How the letters that follow are written: the next one, and those behind it. -/
structure Letters where
  next : LetterCase
  others : LetterCase

/-- A letter as it is to be written. -/
def LetterCase.apply : LetterCase → Char → Char
  | .asIs, c => c
  | .lower, c => c.toLower
  | .upper, c => c.toUpper

/-- A text as it is to be written. -/
def written (l : Letters) : Chars → Chars
  | [] => []
  | c :: r => (if l.next = .asIs then l.others else l.next).apply c :: r.map l.others.apply

/-- What is put in the place of a match. -/
def replacement (f : Regex.Found) (v : Regex.View) (l : Letters) : List Piece → Chars
  | [] => []
  | .letters c :: ps => replacement f v ⟨.asIs, c⟩ ps
  | .letter c :: ps => replacement f v { l with next := c } ps
  | .text s :: ps => written l s ++ replacement f v (if s.isEmpty then l else ⟨.asIs, l.others⟩) ps
  | .part n :: ps =>
    let s := f.group v n
    written l s ++ replacement f v (if s.isEmpty then l else ⟨.asIs, l.others⟩) ps

/-- The text from a place on with matches replaced, and whether one was; the last match ended at
    `stop`, if there was one, and `count` were passed. -/
def replaceFrom (u : Substitution) (r : Regex) (v : Regex.View) (text : Chars) :
    Nat → Nat → Nat → Option Nat → Chars × Bool
  | 0, place, _, _ => (text.drop place, false)
  | n + 1, place, count, stop =>
    match if place ≤ v.text.size then r.search v place else none with
    | none => (text.drop place, false)
    | some f =>
      let front := (text.drop place).take (f.start - place)
      let onward (put : Chars) (done : Bool) (count : Nat) : Chars × Bool :=
        let step := if f.stop = f.start then 1 else 0
        let char := (text.drop f.stop).take step
        let (rest, more) :=
          if f.start = f.stop && v.text.size ≤ f.stop then ([], false)
          else replaceFrom u r v text n (f.stop + step) count (some f.stop)
        (front ++ put ++ char ++ rest, done || more)
      let whole := Regex.Part.of (f.start, f.stop) v
      if f.start = f.stop && stop = some f.start then onward [] false count
      else if count + 1 < u.number.getD 1 then onward whole false (count + 1)
      else
        let put := replacement f v ⟨.asIs, .asIs⟩ u.pieces
        if u.all then onward put true (count + 1)
        else (front ++ put ++ text.drop f.stop, true)

/-- Runs a command of the shell and gives what it printed. -/
def output (ev : Evaluator) (command : Chars) : Work Chars := do
  let (text, _) ← capture ev do
    let _ ← ev.exec ["sh".toList, "-c".toList, command]
  return text

/-- Replaces matches in the line. -/
def replace (ev : Evaluator) (set : Setting) (u : Substitution) : Work Unit := do
  let r ← regexOf u.sought
  let line := (← get).line
  let v := viewOf u.sought r line.text
  let (text, done) := replaceFrom u r v line.text (line.text.length + 2) 0 0 none
  if done then
    modify fun s => { s with line := { line with text := text }, replaced := true }
    if u.run then
      let made ← output ev text
      modify fun s => { s with line := { s.line with text := bareLine made } }
    let line := (← get).line
    if u.printed then printLine set line
    match u.file with
    | some path => writeLine set path line
    | none => return

/-! ## 5. Commands -/

/-- A line with characters that are not printed shown by marks, in rows of a width. -/
def listed (width : Nat) (text : Chars) : Chars :=
  let shownChar (c : Char) : Chars :=
    match c.toNat with
    | 7 => "\\a".toList
    | 8 => "\\b".toList
    | 9 => "\\t".toList
    | 10 => "\\n".toList
    | 11 => "\\v".toList
    | 12 => "\\f".toList
    | 13 => "\\r".toList
    | 92 => "\\\\".toList
    | n =>
      if 32 ≤ n && n < 127 then [c]
      else
        let digit (k : Nat) : Char := Char.ofNat ('0'.toNat + n / k % 8)
        ['\\', digit 64, digit 8, digit 1]
  let rec go : Nat → Chars → Chars
    | _, [] => ['$', '\n']
    | column, c :: r =>
      let s := shownChar c
      if 0 < width && width - 1 < column + s.length then '\\' :: '\n' :: s ++ go s.length r
      else s ++ go (column + s.length) r
  go 0 text

/-- How the program goes on: at a command, with the next line, at the start with what is left of the
    line, or not at all. -/
inductive Onward where
  | at (place : Nat)
  | nextLine (printed : Bool)
  | again
  | stop (printed : Bool) (status : Nat)

/-- Does what a command says. `place` is that of the command behind it. -/
def perform (ev : Evaluator) (set : Setting) (p : Program) (place : Nat) (inRange : Bool) :
    Action → Work Onward
  | .block _ => return .at place
  | .nothing => return .at place
  | .text .above s => do
    printText set s
    return .at place
  | .text .below s => do
    modify fun st => { st with late := .text s :: st.late }
    return .at place
  | .text .instead s => do
    if !inRange then printText set s
    return .nextLine false
  | .jump condition label => do
    let target := if label.isEmpty then p.commands.size else (p.labels.lookup label).getD 0
    let replaced := (← get).replaced
    match condition with
    | .always => return .at target
    | .replaced => do
      modify fun s => { s with replaced := false }
      return .at (if replaced then target else place)
    | .unreplaced => do
      modify fun s => { s with replaced := false }
      return .at (if replaced then place else target)
  | .delete => return .nextLine false
  | .deleteFirst => do
    let s ← get
    if s.line.text.contains set.delimiter then
      let rest := (s.line.text.dropWhile (· ≠ set.delimiter)).drop 1
      MonadState.set { s with line := { s.line with text := rest } }
      return .again
    else return .nextLine false
  | .run command => do
    if command.isEmpty then
      let made ← output ev (← get).line.text
      modify fun s => { s with line := { s.line with text := bareLine made } }
    else printText set (← output ev command)
    return .at place
  | .showName => do
    printText set ((← get).name ++ ['\n'])
    return .at place
  | .recall => do
    modify fun s => { s with line := s.kept }
    return .at place
  | .recallMore => do
    modify fun s =>
      { s with line := ⟨s.line.text ++ set.delimiter :: s.kept.text, s.kept.ended⟩ }
    return .at place
  | .keep => do
    modify fun s => { s with kept := s.line }
    return .at place
  | .keepMore => do
    modify fun s =>
      { s with kept := ⟨s.kept.text ++ set.delimiter :: s.line.text, s.line.ended⟩ }
    return .at place
  | .exchange => do
    modify fun s => { s with line := s.kept, kept := s.line }
    return .at place
  | .list width => do
    printText set (listed (width.getD set.width) (← get).line.text)
    return .at place
  | .next => do
    if ← isLast set then return .nextLine true
    else
      if !set.quiet then printLine set (← get).line
      match ← takeLine set ((← get).files.length + 2) with
      | some l => do
        modify fun s => { s with line := l }
        return .at place
      | none => return .nextLine false
  | .nextMore => do
    if ← isLast set then return .nextLine true
    else
      match ← takeLine set ((← get).files.length + 2) with
      | some l => do
        modify fun s => { s with line := ⟨s.line.text ++ set.delimiter :: l.text, l.ended⟩ }
        return .at place
      | none => return .nextLine true
  | .print => do
    printLine set (← get).line
    return .at place
  | .printFirst => do
    printLine set ⟨(← get).line.text.takeWhile (· ≠ set.delimiter), true⟩
    return .at place
  | .quit printed status => return .stop printed status
  | .readFile path => do
    modify fun s => { s with late := .file path :: s.late }
    return .at place
  | .readLine path => do
    let known := (← get).read.lookup path
    let lines ← match known with
      | some ls => pure ls
      | none => do
        match ← textOf path with
        | .ok text => pure (split set.delimiter text).1
        | .error _ => pure []
    let late (l : List Late) : List Late :=
      match lines with
      | [] => l
      | first :: _ => .text (first ++ [set.delimiter]) :: l
    modify fun s =>
      { s with late := late s.late, read := (path, lines.drop 1) :: s.read.filter (·.1 ≠ path) }
    return .at place
  | .substitute u => do
    replace ev set u
    return .at place
  | .writeFile path => do
    writeLine set path (← get).line
    return .at place
  | .writeFirst path => do
    writeLine set path ⟨(← get).line.text.takeWhile (· ≠ set.delimiter), true⟩
    return .at place
  | .exchangeLetters pairs => do
    let mapped (c : Char) : Char := (pairs.lookup c).getD c
    modify fun s => { s with line := { s.line with text := s.line.text.map mapped } }
    return .at place
  | .clear => do
    modify fun s => { s with line := { s.line with text := [] } }
    return .at place
  | .showNumber => do
    printText set (shown (← get).number ++ ['\n'])
    return .at place

/-- Runs the commands from a place on, a count of steps at most, and gives the status. -/
def run (ev : Evaluator) (set : Setting) (p : Program) : Nat → Nat → Work Nat
  | 0, _ => return 0
  | n + 1, place => do
    let printed (wanted : Bool) : Work Unit := do
      if wanted && !set.quiet then printLine set (← get).line
    let onNext : Work Nat := do
      match ← takeLine set ((← get).files.length + 2) with
      | some l => do
        modify fun s => { s with line := l }
        run ev set p n 0
      | none => return 0
    let goOn (o : Onward) : Work Nat := do
      match o with
      | .at place => run ev set p n place
      | .nextLine wanted => do
        printed wanted
        onNext
      | .again => do
        printLate set
        run ev set p n 0
      | .stop wanted status => do
        printed wanted
        printLate set
        return status
    match p.commands[place]? with
    | none => goOn (.nextLine true)
    | some c =>
      if (← applies set place c) != c.others then
        let open' := ((← get).ranges.lookup place).isSome
        goOn (← perform ev set p (place + 1) (open' && !c.others) c.action)
      else
        match c.action with
        | .block length => run ev set p n (place + length)
        | _ => run ev set p n (place + 1)

/-- The count of steps that a program may take. -/
def stepLimit : Nat := 10000000

/-- Runs the program on the lines there are, and gives the status. What was not read of the input is
    given back. -/
def runAll (ev : Evaluator) (set : Setting) (p : Program) : Work Nat := do
  match ← takeLine set ((← get).files.length + 2) with
  | none => return 0
  | some l => do
    modify fun s => { s with line := l }
    let status ← run ev set p stepLimit 0
    let s ← get
    if s.name = ['-'] then
      let left := (s.here.map fun l => l.length + 1).foldl (· + ·) 0
      giveBack (if s.hereEnded then left else left - 1)
    finishFile set
    return status

/-- The ranges that are open from the start. -/
def startedRanges (p : Program) : List (Nat × Option Nat) :=
  (p.commands.toList.zip (List.range p.commands.size)).filterMap fun (c, n) =>
    match c.first with
    | some (.line 0) => some (n, none)
    | _ => none

/-- The files that a program writes. -/
def outputs (p : Program) : List Chars :=
  (p.commands.toList.filterMap fun c =>
    match c.action with
    | .writeFile f => some f
    | .writeFirst f => some f
    | .substitute u => u.file
    | _ => none).eraseDups.filter (· ≠ outputName)

end Sed

open Sed

/-- The options of `sed`. -/
def sedFlags : List Flag :=
  words [('n', "quiet"), ('n', "silent"), ('E', "regexp-extended"), ('r', ""), ('s', "separate"),
    ('u', "unbuffered"), ('z', "null-data"), ('p', "posix"), ('S', "sandbox"),
    ('F', "follow-symlinks")] ++
  valuedWords [('e', "expression"), ('f', "file"), ('l', "line-length")] ++
  [⟨'i', "in-place", .optional⟩]

/-- The texts of the program, and the files to work on. -/
def programTexts (g : Tool.Given) : Act (List Sed.Given × List Chars) := do
  let given := g.options.filter fun o => o.1 = 'e' || o.1 = 'f'
  if given.isEmpty then
    match g.operands with
    | [] => do
      err "Usage: sed [OPTION]... \x7bscript-only-if-no-other-script\x7d [input-file]...\n".toList
      ends 1
      throw .exits
    | t :: files => return ([⟨t, none⟩], files)
  else
    let texts ← given.mapM fun o => do
      if o.1 = 'e' then return (⟨o.2, none⟩ : Sed.Given)
      else
        match ← textOf o.2 with
        | .ok text => return ⟨text, some o.2⟩
        | .error e => refuse 1 ("couldn't open file ".toList ++ o.2 ++ ": ".toList ++ reason e)
    return (texts, g.operands)

/-- The text starts with the sign for a program that prints only where it says so. -/
def isQuietText (gs : List Sed.Given) : Bool :=
  match gs with
  | ⟨'#' :: 'n' :: r, _⟩ :: _ => r.isEmpty || r.head? = some '\n'
  | _ => false

/-- Works on the lines of files by a program. -/
def sed : Tool := fun ev args => do
  let g ← options sedFlags true 1 args
  let (texts, files) ← programTexts g
  let extended := g.has 'E' || g.has 'r'
  match Sed.read extended texts with
  | .error text => do
    let isLabel := "can't find".toList.isPrefixOf text
    refuse (if isLabel then 4 else 1) text
  | .ok p =>
    let set : Setting :=
      { quiet := g.has 'n' || isQuietText texts
        separate := g.has 's' || g.has 'i'
        inPlace := g.value? 'i'
        delimiter := if g.has 'z' then Char.ofNat 0 else '\n'
        width := ((g.value? 'l').bind natural?).getD 70
        started := startedRanges p }
    if set.inPlace.isSome && files.isEmpty then refuse 4 "no input files".toList
    let opened ← (outputs p).mapM fun f => do
      match ← Redirection.openFile f .write with
      | .ok n => return (f, n)
      | .error e => refuse 4 ("couldn't open file ".toList ++ f ++ ": ".toList ++ reason e)
    let start : State :=
      { line := ⟨[], true⟩, kept := ⟨[], true⟩, number := 0, name := ['-'], here := [],
        hereEnded := true, files := if files.isEmpty then [['-']] else files, opened := false,
        broken := 0, printed := ⟨[], false⟩, written := [], read := [], late := [],
        replaced := false, ranges := set.started, used := none }
    let (status, s) ← (runAll ev set p).run start
    opened.forM fun (f, n) => do
      match s.written.lookup f, (← get).files.lookup n with
      | some k, some e => do
        let _ ← writeTo n e k.whole
      | _, _ => return
    put s.printed.whole
    return if status = 0 then s.broken else status

end DeviceKeys.Tool
