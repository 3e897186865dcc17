import DeviceKeys.Regex.Syntax
import DeviceKeys.Shell.Builtin.Test
import DeviceKeys.Tool.Listing
import DeviceKeys.Tool.Starting

/-! # The program `find`

`Tool.find` walks through file trees and does what a condition says at each entry (`Condition`).
Conditions are looked at from the left, as far as they decide: one may print a path or run a program,
and without any that acts the paths are printed for which the whole holds.

* A directory comes before what it holds, unless the condition asks for the contrary. What it holds
  comes in the order of names.
* Programs that take many paths run at the end.
-/

namespace DeviceKeys.Tool

open Shell Act

namespace Find

/-! ## 1. Conditions -/

/-- How a number is compared: with a sign in front it is to be less or more. -/
structure Measure where
  sign : Option Char
  number : Nat

/-- The number is as it should be. -/
def Measure.fits (m : Measure) (n : Nat) : Bool :=
  match m.sign with
  | some '+' => m.number < n
  | some _ => n < m.number
  | none => n = m.number

/-- How permission bits are compared: all alike, all of some set, or one of some. -/
inductive Permitted where
  | exactly
  | every
  | some
  deriving DecidableEq

/-- A condition on an entry of the file tree. -/
inductive Condition where
  | always (holds : Bool)
  | name (p : Pattern) (fold : Bool)
  | path (p : Pattern) (fold : Bool)
  | target (p : Pattern)
  | regex (r : Regex) (fold : Bool)
  | kind (letters : Chars)
  | empty
  | size (m : Measure) (unit : Nat)
  | newer (path : Chars)
  | links (m : Measure)
  | permission (how : Permitted) (bits : Nat)
  | executable
  | same (path : Chars)
  | print (ending : Char)
  | format (text : Chars) (file : Option Chars)
  | list
  | run (command : List Chars) (there : Bool)
  | runAtEnd (number : Nat) (command : List Chars)
  | delete
  | prune
  | quit
  | most (depth : Nat)
  | least (depth : Nat)
  | contentsFirst
  | not (c : Condition)
  | both (a b : Condition)
  | either (a b : Condition)
  | after (a b : Condition)

/-- The parts of a condition that hold no others. -/
def Condition.parts : Condition → List Condition
  | .not c => c.parts
  | .both a b => a.parts ++ b.parts
  | .either a b => a.parts ++ b.parts
  | .after a b => a.parts ++ b.parts
  | c => [c]

/-- The condition does something, so that paths are not printed for its sake. -/
def Condition.acts : Condition → Bool
  | .print _ => true
  | .format _ _ => true
  | .list => true
  | .run _ _ => true
  | .runAtEnd _ _ => true
  | .delete => true
  | _ => false

/-! ## 2. Reading -/

/-- A text between the quotes of a message. -/
def named (s : Chars) : Chars := Source.backquote :: s ++ ['\'']

/-- Reads a number with a sign. -/
def measure? (s : Chars) : Option (Measure × Chars) :=
  let (sign, r) := match s with
    | '+' :: r => (some '+', r)
    | '-' :: r => (some '-', r)
    | r => (none, r)
  let ds := r.takeWhile Char.isDigit
  (natural? ds).map fun n => (⟨sign, n⟩, r.drop ds.length)

/-- The count of bytes that a letter behind a size stands for. -/
def unit? : Chars → Option Nat
  | [] => some 512
  | ['b'] => some 512
  | ['c'] => some 1
  | ['w'] => some 2
  | ['k'] => some 1024
  | ['M'] => some 1048576
  | ['G'] => some 1073741824
  | _ => none

/-- An expression in which signs of repetition count without a backslash, put into the basic notation.
-/
def basicText : Chars → Chars
  | '\\' :: '+' :: r => '+' :: basicText r
  | '\\' :: '?' :: r => '?' :: basicText r
  | '\\' :: c :: r => '\\' :: c :: basicText r
  | '+' :: r => '\\' :: '+' :: basicText r
  | '?' :: r => '\\' :: '?' :: basicText r
  | c :: r => c :: basicText r
  | [] => []

/-- Reads a regular expression in a notation given by its name. -/
def regexOf (kind text : Chars) : Except Chars Regex :=
  let extended := ["posix-extended", "egrep", "posix-egrep", "awk", "gnu-awk", "posix-awk"]
  let basic := ["sed", "posix-basic", "ed", "grep"]
  let r :=
    if (extended.map String.toList).contains kind then Regex.read Regex.extended text
    else if (basic.map String.toList).contains kind then Regex.read Regex.basic text
    else Regex.read Regex.basic (basicText text)
  r.mapError fun e => e.message.toList

/-- What reads from arguments, and may fail with a message. -/
abbrev Reader := StateT (List Chars) (Except Chars)

/-- The argument behind a word. -/
def argument (word : Chars) : Reader Chars := do
  match ← get with
  | a :: rest => do
    set rest
    return a
  | [] => throw ("missing argument to ".toList ++ named word)

/-- Reads the command behind a word: the arguments up to a semicolon, or up to a plus sign behind
    braces. True if it takes many paths. -/
def command (word : Chars) : Reader (List Chars × Bool) := do
  let args ← get
  let braces : Chars := ['\x7b', '\x7d']
  let rec go : List Chars → List Chars → Option (List Chars × Bool × List Chars)
    | _, [] => none
    | taken, [';'] :: rest => some (taken.reverse, false, rest)
    | t :: taken, ['+'] :: rest =>
      if t = braces then some ((t :: taken).reverse, true, rest) else go (['+'] :: t :: taken) rest
    | taken, a :: rest => go (a :: taken) rest
  match go [] args with
  | some (c, many, rest) => do
    if c.isEmpty then throw ("missing argument to ".toList ++ named word)
    set rest
    return (if many then c.dropLast else c, many)
  | none => throw ("missing argument to ".toList ++ named word)

/-- Reads a number that must be whole. -/
def depthOf (word : Chars) : Reader Nat := do
  let a ← argument word
  match natural? a with
  | some n => return n
  | none =>
    throw ("Expected a positive decimal integer argument to ".toList ++ word ++ ", but got ".toList ++
      quoted a)

/-- Reads a measure behind a word. -/
def measureOf (word : Chars) : Reader Measure := do
  let a ← argument word
  match measure? a with
  | some (m, []) => return m
  | _ => throw ("invalid argument ".toList ++ named a ++ " to ".toList ++ named word)

/-- Reads what a word asks for. Files have no age: all were changed just now. -/
def single (kind : Chars) (number : Nat) (word : Chars) : Reader Condition := do
  let pattern : Reader Pattern := return Pattern.ofChars (← argument word)
  let folded : Reader Pattern := return Pattern.ofChars ((← argument word).map Char.toLower)
  match String.ofList word with
  | "-true" => return .always true
  | "-false" => return .always false
  | "-name" => return .name (← pattern) false
  | "-iname" => return .name (← folded) true
  | "-path" | "-wholename" => return .path (← pattern) false
  | "-ipath" | "-iwholename" => return .path (← folded) true
  | "-lname" => return .target (← pattern)
  | "-regex" => do
    let text ← argument word
    return .regex (← regexOf kind text) false
  | "-iregex" => do
    let text ← argument word
    return .regex (← regexOf kind text) true
  | "-type" | "-xtype" => do
    let letters := (← argument word).filter (· ≠ ',')
    match letters.find? fun c => !"bcdpfls".toList.contains c with
    | some c => throw ("Unknown argument to ".toList ++ word ++ ": ".toList ++ [c])
    | none => return .kind letters
  | "-empty" => return .empty
  | "-size" => do
    let a ← argument word
    match measure? a with
    | some (m, letters) =>
      match unit? letters with
      | some u => return .size m u
      | none => throw ("invalid -size type ".toList ++ named (letters.take 1))
    | none => throw ("invalid -size type ".toList ++ named (a.drop (a.length - 1)))
  | "-newer" | "-anewer" | "-cnewer" => return .newer (← argument word)
  | "-newermt" => do
    let _ ← argument word
    return .always true
  | "-mtime" | "-atime" | "-ctime" => return .always ((← measureOf word).fits 0)
  | "-mmin" | "-amin" | "-cmin" => do
    let m ← measureOf word
    return .always (m.fits (if m.sign = some '-' then 0 else 1))
  | "-links" => return .links (← measureOf word)
  | "-user" | "-group" | "-uid" | "-gid" => do
    let a ← argument word
    return .always (a = "root".toList || a = ['0'])
  | "-nouser" | "-nogroup" => return .always false
  | "-perm" => do
    let a ← argument word
    let (how, text) : Permitted × Chars :=
      match a with
      | '-' :: r => (.every, r)
      | '/' :: r => (.some, r)
      | r => (.exactly, r)
    match modeOf? false text 0 0 with
    | some bits => return .permission how bits
    | none => throw ("invalid mode ".toList ++ quoted a)
  | "-readable" | "-writable" => return .always true
  | "-executable" => return .executable
  | "-samefile" => return .same (← argument word)
  | "-print" => return .print '\n'
  | "-print0" => return .print (Char.ofNat 0)
  | "-printf" => return .format (← argument word) none
  | "-fprintf" => do
    let file ← argument word
    return .format (← argument word) (some file)
  | "-fprint" => return .format "%p\\n".toList (some (← argument word))
  | "-ls" => return .list
  | "-exec" | "-execdir" | "-ok" | "-okdir" => do
    let (c, many) ← command word
    let there := word = "-execdir".toList || word = "-okdir".toList
    return if many then .runAtEnd number c else .run c there
  | "-delete" => return .delete
  | "-prune" => return .prune
  | "-quit" => return .quit
  | "-maxdepth" => return .most (← depthOf word)
  | "-mindepth" => return .least (← depthOf word)
  | "-depth" | "-d" => return .contentsFirst
  | "-xdev" | "-mount" | "-noleaf" | "-follow" | "-daystart" | "-warn" | "-nowarn"
  | "-ignore_readdir_race" | "-noignore_readdir_race" => return .always true
  | "-regextype" => do
    let _ ← argument word
    return .always true
  | _ =>
    if word.head? = some '-' then throw ("unknown predicate ".toList ++ named word)
    else throw ("paths must precede expression: ".toList ++ named word)

/-- The argument in front, if there is one. -/
def front? : Reader (Option Chars) := return (← get).head?

/-- Takes the argument in front. -/
def drop : Reader Unit := modify (List.drop 1)

mutual

/-- Reads conditions of which the last decides. -/
def sequence (kind : Chars) : Nat → Reader Condition
  | 0 => return .always true
  | n + 1 => do
    let a ← alternatives kind n
    if (← front?) = some [','] then
      drop
      return .after a (← sequence kind n)
    else return a

/-- Reads conditions of which one must hold. -/
def alternatives (kind : Chars) : Nat → Reader Condition
  | 0 => return .always true
  | n + 1 => do
    let a ← row kind n
    match ← front? with
    | some w =>
      if w = "-o".toList || w = "-or".toList then
        drop
        if (← get).isEmpty then
          throw ("expected an expression after ".toList ++ quoted w)
        return .either a (← alternatives kind n)
      else return a
    | none => return a

/-- Reads conditions that must all hold. -/
def row (kind : Chars) : Nat → Reader Condition
  | 0 => return .always true
  | n + 1 => do
    let a ← operand kind n
    match ← front? with
    | none => return a
    | some w =>
      if w = "-o".toList || w = "-or".toList || w = [','] || w = [')'] then return a
      else
        if w = "-a".toList || w = "-and".toList then
          drop
          if (← get).isEmpty then
            throw ("expected an expression after ".toList ++ quoted w)
        return .both a (← row kind n)

/-- Reads a condition, which may be negated or stand in brackets. -/
def operand (kind : Chars) : Nat → Reader Condition
  | 0 => return .always true
  | n + 1 => do
    match ← front? with
    | none => return .always true
    | some w => do
      drop
      if w = ['!'] || w = "-not".toList then
        if (← get).isEmpty then throw ("expected an expression after ".toList ++ quoted w)
        return .not (← operand kind n)
      else if w = ['('] then
        if (← front?) = some [')'] then
          throw "invalid expression; empty parentheses are not allowed.".toList
        let c ← sequence kind n
        if (← front?) = some [')'] then
          drop
          return c
        else
          throw ("invalid expression; I was expecting to find a ')' somewhere but " ++
            "did not see one.").toList
      else if w = [')'] then throw "you have too many ')'".toList
      else if ["-o", "-or", "-a", "-and", ","].contains (String.ofList w) then
        throw ("invalid expression; you have used a binary operator '".toList ++ w ++
          "' with nothing before it.".toList)
      else single kind (← get).length w

end

/-- Reads a whole condition. -/
def read (args : List Chars) : Except Chars Condition := do
  if args.isEmpty then return .always true
  else
    let kinds := (args.zip (args.drop 1)).filter (·.1 = "-regextype".toList)
    let kind := (kinds.head?.map (·.2)).getD []
    let (c, rest) ← (sequence kind (4 * args.length + 4)).run args
    match rest with
    | [] => return c
    | _ => throw "you have too many ')'".toList

/-! ## 3. Entries -/

/-- An entry that the walk has come to: its path, where it stands, how deep below the path that the
    walk began with, and that path. -/
structure Node where
  path : Chars
  location : Location
  depth : Nat
  top : Chars

/-- What the walk has come to: a directory is not to be entered, the walk is to end, something went
    wrong; and the paths that wait for programs that take many. -/
structure State where
  pruned : Bool
  ended : Bool
  broken : Bool
  waiting : List (Nat × List Chars)

/-- What works on the state. -/
abbrev Work := StateT State Act

/-- The last name of a path. -/
def lastName (path : Chars) : Chars :=
  let bare := withoutSlashes path
  if bare.isEmpty then path else (bare.reverse.takeWhile (· ≠ '/')).reverse

/-- The letter for the kind of an entry. -/
def letterOf (e : Entry) : Char := if kindLetter e = '-' then 'f' else kindLetter e

/-- The text of a format for an entry, which has a count of names. -/
def formatted (x : Node) (links : Nat) (e : Entry) : Chars → Chars
  | '\\' :: c :: r =>
    match c with
    | 'n' => '\n' :: formatted x links e r
    | 't' => '\t' :: formatted x links e r
    | '0' => Char.ofNat 0 :: formatted x links e r
    | '\\' => '\\' :: formatted x links e r
    | 'c' => []
    | c => '\\' :: c :: formatted x links e r
  | '%' :: c :: r =>
    let dir := x.path.take (x.path.length - (lastName x.path).length)
    let text : Chars :=
      match c with
      | 'p' => x.path
      | 'f' => lastName x.path
      | 'h' => if dir.isEmpty then ['.'] else dir.dropLast
      | 'P' => (x.path.drop x.top.length).dropWhile (· = '/')
      | 'H' => x.top
      | 's' => shown (sizeOf e)
      | 'd' => shown x.depth
      | 'y' => [letterOf e]
      | 'm' => Nat.toDigits 8 (modeAt e)
      | 'M' => kindLetter e :: modeLetters (modeAt e)
      | 'l' =>
        match e with
        | .link t => ofBytes t.bytes
        | _ => []
      | 'u' => "root".toList
      | 'g' => "root".toList
      | 'U' => ['0']
      | 'G' => ['0']
      | 'n' => shown links
      | 'b' => shown (blocksOf e * 2)
      | 'k' => shown (blocksOf e)
      | '%' => ['%']
      | c => ['%', c]
    text ++ formatted x links e r
  | c :: r => c :: formatted x links e r
  | [] => []

/-- Runs a program. False unless it ends well. -/
def start (ev : Evaluator) (args : List Chars) : Work Bool := do
  match ← ev.exec args with
  | .ok (.exited 0) => return true
  | .ok _ => return false
  | .error e => do
    warn (quoted (args.headD []) ++ ": ".toList ++ reason e)
    return false

/-- Tells that something is wrong with an entry. -/
def tellWrong (text : Chars) : Work Bool := do
  warn text
  modify fun s => { s with broken := true }
  return false

/-- Takes away an entry. -/
def remove (x : Node) (e : Entry) : Work Bool := do
  if x.path = ['.'] then return true
  else if e.isDir && !((← fs).isEmptyDir x.location) then
    tellWrong ("cannot delete ".toList ++ quoted x.path ++ ": Directory not empty".toList)
  else
    removeAt x.location
    return true

/-- Writes the text of a format to a file that the walk has open, or to the output. -/
def putFormatted (opened : List (Chars × Nat)) (file : Option Chars) (text : Chars) :
    Work Bool := do
  match file.bind (fun f => opened.lookup f) with
  | none => put text
  | some n =>
    match (← getThe Machine).files.lookup n with
    | some e => do
      let _ ← writeTo n e text
    | none => pure ()
  return true

/-- What an entry must be, or what is to be done with it. -/
def check (ev : Evaluator) (opened : List (Chars × Nat)) (x : Node) (e : Entry) :
    Condition → Work Bool
  | .always b => return b
  | .name p fold =>
    let name := lastName x.path
    return p.fits (if fold then name.map Char.toLower else name)
  | .path p fold => return p.fits (if fold then x.path.map Char.toLower else x.path)
  | .target p =>
    match e with
    | .link t => return p.fits (ofBytes t.bytes)
    | _ => return false
  | .regex r fold =>
    return (r.ends (r.lineView fold x.path) ⟨0, []⟩).any fun s => s.place = x.path.length
  | .kind letters => return letters.contains (letterOf e)
  | .empty =>
    match e with
    | .file _ data => return data.isEmpty
    | .dir _ => return (← fs).isEmptyDir x.location
    | .link _ => return false
  | .size m unit => return m.fits ((sizeOf e + unit - 1) / unit)
  | .newer path => do
    let fs ← fs
    match Shell.Condition.age? fs path with
    | some n => return (fs.entries.findIdx? (·.1 = x.location)).any (· < n)
    | none => refuse 1 (quoted path ++ ": No such file or directory".toList)
  | .links m => return m.fits (linksOf (← fs) x.location e)
  | .permission how bits =>
    let mode := modeAt e
    match how with
    | .exactly => return mode = bits
    | .every => return mode &&& bits = bits
    | .some => return bits = 0 || mode &&& bits ≠ 0
  | .executable => return e.isDir || modeAt e &&& 0o111 ≠ 0
  | .same path => do
    match ← located true path with
    | .ok l => return l = x.location
    | .error e => refuse 1 (quoted path ++ ": ".toList ++ reason e)
  | .print ending => do
    put (x.path ++ [ending])
    return true
  | .format text file => do
    let links := linksOf (← fs) x.location e
    putFormatted opened file (formatted x links e text)
  | .list => do
    let links := linksOf (← fs) x.location e
    put (lineOf (rightAligned 9 ['0'] ++ ' ' :: rightAligned 6 (shown (blocksOf e)) ++ ' ' ::
      kindLetter e :: modeLetters (modeAt e) ++ "   ".toList ++ shown links ++
      " root     root     ".toList ++ rightAligned 8 (shown (sizeOf e)) ++
      " Jan  1 00:00 ".toList ++ x.path))
    return true
  | .run command there => do
    let braces : Chars := ['\x7b', '\x7d']
    let name := if there then "./".toList ++ lastName x.path else x.path
    let args := command.map fun c => replaceAll braces name (c.length + 1) c
    if there then
      let dir := (← process).dir
      change fun p => { p with dir := x.location.drop 1 }
      let ok ← start ev args
      change fun p => { p with dir := dir }
      return ok
    else start ev args
  | .runAtEnd number _ => do
    modify fun s =>
      let old := (s.waiting.lookup number).getD []
      { s with waiting := (number, x.path :: old) :: s.waiting.filter (·.1 ≠ number) }
    return true
  | .delete => remove x e
  | .prune => do
    modify fun s => { s with pruned := true }
    return true
  | .quit => do
    modify fun s => { s with ended := true }
    return true
  | .most _ => return true
  | .least _ => return true
  | .contentsFirst => return true
  | .not c => return !(← check ev opened x e c)
  | .both a b => do
    if ← check ev opened x e a then
      if (← get).ended then return false else check ev opened x e b
    else return false
  | .either a b => do
    if ← check ev opened x e a then return true
    else if (← get).ended then return false
    else check ev opened x e b
  | .after a b => do
    let _ ← check ev opened x e a
    if (← get).ended then return false else check ev opened x e b

/-! ## 4. The walk -/

/-- What a walk is to do. -/
structure Plan where
  condition : Condition
  follows : Bool
  contentsFirst : Bool
  most : Nat
  least : Nat
  opened : List (Chars × Nat)

/-- Walks through the file tree from an entry on. -/
def walk (ev : Evaluator) (plan : Plan) : Nat → Node → Work Unit
  | 0, _ => return
  | n + 1, x => do
    let missing : Work Unit := do
      let _ ← tellWrong (quoted x.path ++ ": No such file or directory".toList)
    match ← entryAt? x.location with
    | none => missing
    | some e => do
      let visit : Work Unit := do
        if plan.least ≤ x.depth then
          let _ ← check ev plan.opened x e plan.condition
      let inner : Work Unit := do
        if e.isDir && x.depth < plan.most then
          if (← entryAt? x.location).isNone then missing
          else
            let names := (← fs).names x.location
            names.forM fun name => do
              if !(← get).ended then
                let l := name :: x.location
                let l ←
                  if plan.follows then
                    match ← located true (ofBytes (FileSystem.pathTo l).bytes) with
                    | .ok l' => pure l'
                    | .error _ => pure l
                  else pure l
                walk ev plan n ⟨within x.path (ofBytes name), l, x.depth + 1, x.top⟩
      modify fun s => { s with pruned := false }
      if plan.contentsFirst then
        inner
        if !(← get).ended then visit
      else
        visit
        let s ← get
        if !s.ended && !s.pruned then inner

/-- The word starts a condition. -/
def startsCondition (a : Chars) : Bool :=
  (a.head? = some '-' && 1 < a.length) || a = ['('] || a = ['!']

/-- The files that a condition writes. -/
def outputs (c : Condition) : List Chars :=
  (c.parts.filterMap fun p =>
    match p with
    | .format _ file => file
    | _ => none).eraseDups

end Find

open Find

/-- Walks through file trees. -/
def find : Tool := fun ev args => do
  let flags := args.takeWhile fun a => ["-H", "-L", "-P"].contains (String.ofList a)
  let args := args.drop flags.length
  let tops := args.takeWhile fun a => !startsCondition a
  match Find.read (args.drop tops.length) with
  | .error text => refuse 1 text
  | .ok c =>
    let parts := c.parts
    let most := parts.filterMap fun p =>
      match p with
      | .most n => some n
      | _ => none
    let least := parts.filterMap fun p =>
      match p with
      | .least n => some n
      | _ => none
    let contentsFirst := parts.any fun p =>
      match p with
      | .delete => true
      | .contentsFirst => true
      | _ => false
    let condition := if parts.any Condition.acts then c else .both c (.print '\n')
    let follows := flags.getLast? = some "-L".toList || (args.drop tops.length).contains "-follow".toList
    let opened ← (outputs c).mapM fun f => do
      match ← Redirection.openFile f .write with
      | .ok n => return (f, n)
      | .error e => refuse 1 (quoted f ++ ": ".toList ++ reason e)
    let plan : Plan :=
      ⟨condition, follows, contentsFirst, (most.getLast?).getD treeDepth, (least.getLast?).getD 0,
       opened⟩
    let begin (top : Chars) : Work Unit := do
      if !(← get).ended then
        match ← located (follows || flags.contains "-H".toList) top with
        | .ok l => walk ev plan treeDepth ⟨top, l, 0, top⟩
        | .error e => do
          let _ ← tellWrong (quoted top ++ ": ".toList ++ reason e)
    let ending : Work Unit := do
      let waiting := (← get).waiting
      parts.forM fun p => do
        match p with
        | .runAtEnd number command =>
          match waiting.lookup number with
          | some paths => do
            if !(← start ev (command ++ paths.reverse)) then
              modify fun s => { s with broken := true }
          | none => return
        | _ => return
    let work : Work Unit := do
      (if tops.isEmpty then [['.']] else tops).forM begin
      ending
    let ((), s) ← work.run ⟨false, false, false, []⟩
    return if s.broken then 1 else 0

end DeviceKeys.Tool
