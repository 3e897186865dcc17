import DeviceKeys.Tool.Awk.Machine

/-! # The pattern language

`Tool.awk` runs a program on the records of files.

* Expressions and statements are run by a `Runner` for the parts inside them, which is tied to itself
  a bounded number of times.
* A regular expression that stands alone asks whether it describes a part of the record.
-/

namespace DeviceKeys.Tool

open Shell Act

namespace Awk

/-! ## 1. Parts -/

/-- Runs the parts of expressions and statements. -/
structure Runner where
  eval : Expr → Work Value
  exec : Statement → Work Unit

/-- What a program runs with. -/
structure Setting where
  ev : Evaluator
  functions : List (String × Function)

/-- The text of an expression. -/
def Runner.text (r : Runner) (e : Expr) : Work Chars := do textOf (← r.eval e)

/-- The number of an expression. -/
def Runner.number (r : Runner) (e : Expr) : Work Quantity := return (← r.eval e).toNumber

/-- The whole number of an expression. -/
def Runner.int (r : Runner) (e : Expr) : Work Int := return (← r.number e).toInt

/-- The regular expression that an expression stands for. -/
def Runner.regex (r : Runner) (e : Expr) : Work Regex := do
  match e with
  | .regex s => regexFor s
  | .list [.regex s] => regexFor s
  | e => regexFor (← r.text e)

/-- The name of an element, and whether it is a whole number. -/
def Runner.key (r : Runner) (indices : List Expr) : Work (String × Bool) := do
  match indices with
  | [e] =>
    match ← r.eval e with
    | .number q =>
      match q.whole? with
      | some v => return (toString v, true)
      | none => return (String.ofList (← textOf (.number q)), false)
    | v => return (String.ofList (← textOf v), false)
  | es => do
    let separator ← setting "SUBSEP"
    let texts ← es.mapM r.text
    return (String.ofList (List.intercalate separator texts), false)

/-- Gives a target a value. -/
def Runner.assign (r : Runner) (target : Expr) (v : Value) : Work Unit := do
  match target with
  | .name n => setValue n v
  | .element n indices => do
    let (key, whole) ← r.key indices
    let k ← tableNumber n
    alterTable k fun t => t.put key whole v
  | .field e => do setField (← r.int e) v
  | .list [.name n] => setValue n v
  | _ => return

/-! ## 2. Texts -/

/-- Text that a format makes of values, up to a directive that has none. -/
structure Formatting where
  text : Chars
  complete : Bool

/-- Writes values by a format, a count of directives at most. -/
def formatValues (numbers : Chars) : Nat → Chars → List Value → Formatting
  | 0, _, _ => ⟨[], true⟩
  | n + 1, format, vs =>
    let front := format.takeWhile (· ≠ '%')
    let go (text rest : Chars) (vs : List Value) : Formatting :=
      let more := formatValues numbers n rest vs
      { more with text := front ++ text ++ more.text }
    match format.drop front.length with
    | [] => ⟨front, true⟩
    | _ :: '%' :: rest => go ['%'] rest vs
    | _ :: r =>
      match Directive.read? r with
      | none => ⟨front, false⟩
      | some (d, rest) =>
        let sized : Option (Directive × List Value) :=
          match d.width, vs with
          | .given, v :: vs => some (d.withWidth v.toNumber.toInt, vs)
          | .given, [] => none
          | _, vs => some (d, vs)
        let sized : Option (Directive × List Value) :=
          sized.bind fun (d, vs) =>
            match d.precision, vs with
            | .given, v :: vs => some (d.withPrecision v.toNumber.toInt, vs)
            | .given, [] => none
            | _, vs => some (d, vs)
        match sized with
        | none => ⟨front, false⟩
        | some (_, []) => ⟨front, false⟩
        | some (d, v :: vs) =>
          let whole : Int :=
            match v.toNumber.truncated.whole? with
            | some w => max (-(pow2 63 : Int)) (min w (pow2 64 - 1))
            | none => v.toNumber.toInt
          match d.kind with
          | 'd' | 'i' => go (d.integer whole) rest vs
          | 'o' | 'x' | 'X' | 'u' => go (d.natural (whole % (pow2 64 : Int)).toNat) rest vs
          | 'c' =>
            match v with
            | .number q => go (d.character (Char.ofNat (q.toInt % 256).toNat)) rest vs
            | v => go (d.text ((v.toText numbers).take 1)) rest vs
          | 's' => go (d.text (v.toText numbers)) rest vs
          | 'e' | 'E' | 'f' | 'F' | 'g' | 'G' | 'a' | 'A' => go (d.quantity v.toNumber) rest vs
          | _ => ⟨front, false⟩

/-- The text that a format makes of values; what is made of one that has too few is printed by
    `partly`. -/
def formattedText (called : String) (partly : Chars → Work Unit) (format : Chars) (vs : List Value) :
    Work Chars := do
  let made := formatValues (← numberFormat) (format.length + 1) format vs
  if made.complete then return made.text
  else
    partly made.text
    fatal ("run time error: not enough arguments passed to ".toList ++ called.toList ++ "(\"".toList ++
      format ++ "\")".toList ++ (← whereabouts))

/-- What is put in the place of a match. -/
def replacement (found : Chars) : Chars → Chars
  | '\\' :: '\\' :: '&' :: r => '\\' :: found ++ replacement found r
  | '\\' :: '&' :: r => '&' :: replacement found r
  | '&' :: r => found ++ replacement found r
  | c :: r => c :: replacement found r
  | [] => []

/-- The text from a place on with matches replaced, and how many. The last match ended at `stop`. -/
def replaceFrom (all : Bool) (r : Regex) (v : Regex.View) (text new : Chars) :
    Nat → Nat → Option Nat → Chars × Nat
  | 0, place, _ => (text.drop place, 0)
  | n + 1, place, stop =>
    match if place ≤ v.text.size then r.search v place else none with
    | none => (text.drop place, 0)
    | some f =>
      let front := (text.drop place).take (f.start - place)
      let isEmpty := f.start = f.stop
      let counts := !(isEmpty && stop = some f.start)
      let put := if counts then replacement (Regex.Part.of (f.start, f.stop) v) new else []
      if !all then (front ++ put ++ text.drop f.stop, 1)
      else
        let step := if isEmpty then 1 else 0
        let char := (text.drop f.stop).take step
        let (rest, more) :=
          if isEmpty && v.text.size ≤ f.stop then ([], 0)
          else replaceFrom all r v text new n (f.stop + step) (some f.stop)
        (front ++ put ++ char ++ rest, more + if counts then 1 else 0)

/-- The part of a text from a place on, of a length if one is given. -/
def part (s : Chars) (start : Quantity) (length : Option Quantity) : Chars :=
  let rounded (q : Quantity) : Int :=
    match q with
    | .finite negative n d => Quantity.signed negative (roundDiv n d)
    | .infinite negative => if negative then -1000000000 else 1000000000
    | .undefined _ => -1000000000
  let first := rounded start
  let behind : Int :=
    match length with
    | some n => first + rounded n
    | none => s.length + 1
  let first := max first 1
  let count := behind - first
  (s.drop (first - 1).toNat).take count.toNat

/-- The place of a text in another, counted from one; zero when it is not there. -/
def placeIn (s t : Chars) : Nat :=
  ((Grep.placeOf (fun a b => a = b) t (s.length + 1) 1 s)).getD 0

/-! ## 3. Functions of the language -/

/-- Replaces matches in a target. -/
def substitute (r : Runner) (all : Bool) (args : List Expr) : Work Value := do
  match args with
  | pattern :: new :: rest => do
    let x ← r.regex pattern
    let new ← r.text new
    let target := rest.headD (.field (.number zero))
    let text ← r.text target
    let (made, count) := replaceFrom all x (x.lineView false text) text new (text.length + 2) 0 none
    if 0 < count then r.assign target (.text made)
    return .number (Quantity.ofNat count)
  | _ => return .number zero

/-- Cuts a text into the elements of a table. -/
def splitInto (r : Runner) (args : List Expr) : Work Value := do
  match args with
  | e :: .name n :: rest => do
    let text ← r.text e
    let cutter ←
      match rest with
      | [] => do cutterOf (← setting "FS")
      | .regex s :: _ => pure (Cutter.regex (← regexFor s))
      | x :: _ => do cutterOf (← r.text x)
    let parts := cut cutter text
    let k ← tableNumber n
    let numbered := parts.zip (List.range parts.length)
    alterTable k fun _ =>
      numbered.foldl (fun t (s, i) => t.put (toString (i + 1)) true (.input s)) Table.empty
    return .number (Quantity.ofNat parts.length)
  | _ => return .number zero

/-- The number that comes behind another in a row of random numbers. -/
def nextSeed (n : Nat) : Nat := (n * 6364136223846793005 + 1442695040888963407) % pow2 64

/-- The result of a function of numbers. -/
def numeric? (n : String) : Option (Quantity → Quantity) :=
  match n with
  | "sin" => some Quantity.sine
  | "cos" => some Quantity.cosine
  | "exp" => some Quantity.exp
  | "log" => some Quantity.log
  | "sqrt" => some Quantity.squareRoot
  | "int" => some Quantity.truncated
  | _ => none

/-- The result of a function of the language. -/
def builtin (set : Setting) (r : Runner) (n : String) (args : List Expr) : Work Value := do
  let count (k : Nat) : Value := .number (Quantity.ofNat k)
  match numeric? n, args with
  | some f, e :: _ => return .number (f (← r.number e))
  | _, _ =>
    match n, args with
    | "length", [] => return count (← state).line.length
    | "length", .name v :: _ => do
      match ← slot? v with
      | some (.table k) => return count (← table k).elements.size
      | _ => return count (← r.text (.name v)).length
    | "length", e :: _ => return count (← r.text e).length
    | "substr", e :: m :: rest => do
      let s ← r.text e
      let start ← r.number m
      match rest with
      | [] => return .text (part s start none)
      | l :: _ => return .text (part s start (some (← r.number l)))
    | "index", s :: t :: _ => do
      let s ← r.text s
      let t ← r.text t
      return count (if t.isEmpty then 0 else placeIn s t)
    | "split", args => splitInto r args
    | "sub", args => substitute r false args
    | "gsub", args => substitute r true args
    | "match", e :: p :: _ => do
      let s ← r.text e
      let x ← r.regex p
      let (start, length) : Int × Int :=
        match x.search (x.lineView false s) 0 with
        | some f => ((f.start : Int) + 1, (f.stop : Int) - f.start)
        | none => (0, -1)
      setNumber "RSTART" start
      setNumber "RLENGTH" length
      return .number (Quantity.ofInt start)
    | "sprintf", f :: rest => do
      let format ← r.text f
      let vs ← rest.mapM r.eval
      return .text (← formattedText n (fun _ => return) format vs)
    | "atan2", y :: x :: _ => return .number ((← r.number y).angle (← r.number x))
    | "rand", _ => do
      let seed := nextSeed (← state).seed
      alter fun s => { s with seed := seed }
      return .number (Quantity.settled (seed / 2048) (pow2 53))
    | "srand", rest => do
      let old := (← state).seed
      let new ← match rest with
        | [] => pure 0
        | e :: _ => do pure (← r.int e).toNat
      alter fun s => { s with seed := new }
      return count old
    | "tolower", e :: _ => return .text ((← r.text e).map Char.toLower)
    | "toupper", e :: _ => return .text ((← r.text e).map Char.toUpper)
    | "system", e :: _ => do
      let command ← r.text e
      flush
      flushFiles
      return count (← system (runCommand set.ev command))
    | "close", e :: _ => return .number (Quantity.ofInt (← closeStream set.ev (← r.text e)))
    | "fflush", _ => do
      flush
      flushFiles
      return count 0
    | _, _ => return .none

/-- What an argument hands to a function: a table, or a name that may become one, or a value. -/
def handed (r : Runner) (e : Expr) : Work Slot := do
  match e with
  | .name n =>
    match ← slot? n with
    | some (.table k) => return .table k
    | some (.fresh k) => return .fresh k
    | none =>
      if n = "NF" then return .value (← r.eval e)
      else
        let k := (← state).count
        alter fun s => { s with count := k + 1 }
        return .fresh k
    | some (.value _) => return .value (← r.eval e)
  | e => return .value (← r.eval e)

/-- Lets a name that was handed to a function stand for the table that it has become there. -/
def settle (e : Expr) (x : Slot) : Work Unit := do
  match e, x with
  | .name n, .fresh k =>
    if ((← state).tables.get? k).isSome then setSlot n (.table k)
  | _, _ => return

/-- The result of a function of the program. -/
def call (set : Setting) (r : Runner) (n : String) (args : List Expr) : Work Value := do
  match set.functions.lookup n with
  | none => fatal ("function ".toList ++ n.toList ++ " never defined".toList)
  | some f =>
    let given ← args.mapM (handed r)
    let start := (← state).count
    let extra := f.parameters.length - given.length
    alter fun s => { s with count := start + extra }
    let own := (List.range extra).map fun i => Slot.fresh (start + i)
    let frame := f.parameters.zip (given ++ own)
    alter fun s => { s with frames := frame :: s.frames }
    let leave : Work Unit := alter fun s => { s with frames := s.frames.drop 1 }
    let result ← tryCatch (do
      r.exec f.body
      return Value.none) fun j => do
        match j with
        | .returns v => return v
        | j => do
          leave
          throw j
    leave
    (args.zip given).forM fun (e, x) => settle e x
    return result

/-! ## 4. Expressions -/

/-- Reads a line as an expression asks for, and tells by a number what came of it. -/
def getline (set : Setting) (r : Runner) (origin : Origin) (source target : Option Expr) :
    Work Value := do
  let result (n : Int) : Value := .number (Quantity.ofInt n)
  let take (record : Chars) : Work Unit := do
    match target with
    | some t => r.assign t (.input record)
    | none => setLine record
  match source with
  | none =>
    match ← mainRecord with
    | some record => do
      take record
      return result 1
    | none => return result 0
  | some e => do
    let name ← r.text e
    match ← readFrom set.ev origin name with
    | none => return result (-1)
    | some none => return result 0
    | some (some record) => do
      take record
      return result 1

/-- The value of an expression. -/
def evalWith (set : Setting) (r : Runner) : Expr → Work Value
  | .number q => return .number q
  | .text s => return .text s
  | .regex s => return truth ((← regexFor s).isIn false (← state).line)
  | .name n => valueOf n
  | .element n indices => do
    let (key, whole) ← r.key indices
    elementValue (← tableNumber n) key whole
  | .field e => do fieldValue (← r.int e)
  | .assign none target e => do
    let v ← r.eval e
    r.assign target v
    return v
  | .assign (some op) target e => do
    let b ← r.number e
    let a ← r.number target
    let v := Value.number (op.apply a b)
    r.assign target v
    return v
  | .choose c a b => do
    if (← r.eval c).isTrue then r.eval a else r.eval b
  | .either a b => do
    if (← r.eval a).isTrue then return truth true else return truth (← r.eval b).isTrue
  | .both a b => do
    if (← r.eval a).isTrue then return truth (← r.eval b).isTrue else return truth false
  | .isIn indices n => do
    let (key, whole) ← r.key indices
    let k ← tableNumber n
    let found := ((← table k).get? key).isSome
    if found then alterTable k fun t => t.touched key whole
    return truth found
  | .fits wanted e pattern => do
    let text ← r.text e
    return truth (((← r.regex pattern).isIn false text) = wanted)
  | .compare c a b => do
    let x ← r.eval a
    let y ← r.eval b
    return truth (c.holds (compareValues (← numberFormat) x y))
  | .operate .join a b => do
    let x ← r.text a
    return .text (x ++ (← r.text b))
  | .operate op a b => do
    let x ← r.number a
    return .number (op.apply x (← r.number b))
  | .negate e => return .number (← r.number e).negated
  | .plus e => return .number (← r.number e)
  | .not e => return truth !(← r.eval e).isTrue
  | .step first amount target => do
    let old ← r.number target
    let new := old.sum (Quantity.ofInt amount)
    r.assign target (.number new)
    return .number (if first then new else old)
  | .call n args => call set r n args
  | .builtin n args => builtin set r n args
  | .getline origin source target => getline set r origin source target
  | .list [e] => r.eval e
  | .list es => do
    let (key, _) ← r.key es
    return .text key.toList

/-! ## 5. Statements -/

/-- The count of turns that a loop may take. -/
def turnLimit : Nat := 100000000

/-- Runs the body of a loop. False when the loop is to end. -/
def turn (body : Work Unit) : Work Bool :=
  tryCatch (do
    body
    return true) fun j =>
      match j with
      | .breaks => return false
      | .continues => return true
      | j => throw j

/-- Runs turns of a loop, a count of them at most. -/
def turns (condition : Work Bool) (body : Work Unit) (next : Work Unit) : Nat → Work Unit
  | 0 => return
  | n + 1 => do
    if ← condition then
      if ← turn body then
        next
        turns condition body next n

/-- Prints a text to where a statement says. -/
def printOut (r : Runner) (out : Output) (text : Chars) : Work Unit := do
  match out with
  | .main => alter fun s => { s with printed := text :: s.printed }
  | .file e => do printTo (← r.text e) false false text
  | .append e => do printTo (← r.text e) false true text
  | .command e => do printTo (← r.text e) true false text

/-- The text of a value that is printed. -/
def printedText (v : Value) : Work Chars := do
  match v with
  | .number _ => return v.toText (← setting "OFMT")
  | v => textOf v

/-- Goes through the names of elements. -/
def eachKey (n : String) (body : Work Unit) : List String → Work Unit
  | [] => return
  | key :: rest => do
    setValue n (.text key.toList)
    if ← turn body then eachKey n body rest

/-- Runs a statement. -/
def execWith (r : Runner) : Statement → Work Unit
  | .expr e => do
    let _ ← r.eval e
  | .print es out => do
    let text ←
      match es with
      | [] => do pure (← state).line
      | es => do
        let texts ← es.mapM fun e => do printedText (← r.eval e)
        pure (List.intercalate (← setting "OFS") texts)
    printOut r out (text ++ (← setting "ORS"))
  | .format es out => do
    match es with
    | [] => return
    | f :: rest => do
      let format ← r.text f
      let vs ← rest.mapM r.eval
      printOut r out (← formattedText "printf" (printOut r out) format vs)
  | .branch c yes no => do
    if (← r.eval c).isTrue then r.exec yes
    else
      match no with
      | some s => r.exec s
      | none => return
  | .loop c body =>
    turns (return (← r.eval c).isTrue) (r.exec body) (return) turnLimit
  | .loopAfter body c => do
    if ← turn (r.exec body) then
      turns (return (← r.eval c).isTrue) (r.exec body) (return) turnLimit
  | .count start c next body => do
    start.forM r.exec
    let condition : Work Bool := do
      match c with
      | some e => return (← r.eval e).isTrue
      | none => return true
    turns condition (r.exec body) (next.forM r.exec) turnLimit
  | .each n array body => do
    let k ← tableNumber array
    let (keys, t) := (← table k).keys
    alterTable k fun _ => t
    eachKey n (r.exec body) keys
  | .block ss => ss.forM r.exec
  | .next => throw .next
  | .nextFile => throw .nextFile
  | .exit e => do
    match e with
    | some e => do
      let n ← r.int e
      alter fun s => { s with status := (n % 256).toNat }
    | none => pure ()
    throw .exits
  | .return e => do
    match e with
    | some e => throw (.returns (← r.eval e))
    | none => throw (.returns .none)
  | .break => throw .breaks
  | .continue => throw .continues
  | .delete n [] => do
    let k ← tableNumber n
    alterTable k fun _ => Table.empty
  | .delete n indices => do
    let (key, _) ← r.key indices
    let k ← tableNumber n
    alterTable k fun t => t.erase key

/-- How deep parts may stand inside others. -/
def depthLimit : Nat := 20000

/-- What runs the parts of a program. -/
def runner (set : Setting) : Nat → Runner
  | 0 => ⟨fun _ => return .none, fun _ => return⟩
  | n + 1 =>
    ⟨fun e => evalWith set (runner set n) e, fun s => execWith (runner set n) s⟩

/-! ## 6. Rules -/

/-- Runs the bodies of rules that run once. -/
def runOnce (r : Runner) (rules : List Rule) (wanted : Pattern → Bool) : Work Unit :=
  rules.forM fun rule => do
    if wanted rule.pattern then rule.body.forM r.exec

/-- A rule applies to the record. `n` is the number of the rule. -/
def applies (r : Runner) (n : Nat) : Pattern → Work Bool
  | .start => return false
  | .finish => return false
  | .always => return true
  | .when e => return (← r.eval e).isTrue
  | .between a b => do
    let active := (← state).active.contains n
    if active || (← r.eval a).isTrue then
      let ends := (← r.eval b).isTrue
      alter fun s =>
        let others := s.active.filter (· ≠ n)
        { s with active := if ends then others else n :: others }
      return true
    else return false

/-- Runs the rules on the record. -/
def runRules (r : Runner) : Nat → List Rule → Work Unit
  | _, [] => return
  | n, rule :: rest => do
    if ← applies r n rule.pattern then
      match rule.body with
      | some s => r.exec s
      | none => r.exec (.print [] .main)
    runRules r (n + 1) rest

/-- Runs the rules on all records, a count of them at most. -/
def runRecords (r : Runner) (rules : List Rule) : Nat → Work Unit
  | 0 => return
  | n + 1 => do
    match ← mainRecord with
    | none => return
    | some record => do
      setLine record
      tryCatch (runRules r 0 rules) fun j =>
        match j with
        | .next => return
        | .nextFile => alter fun s => { s with main := none }
        | j => throw j
      runRecords r rules n

/-- The pattern is one of records. -/
def Pattern.isOfRecords : Pattern → Bool
  | .start => false
  | .finish => false
  | _ => true

/-- The pattern is that of the start. -/
def Pattern.isStart : Pattern → Bool
  | .start => true
  | _ => false

/-- The pattern is that of the end. -/
def Pattern.isFinish : Pattern → Bool
  | .finish => true
  | _ => false

/-- Runs a program. -/
def run (set : Setting) (p : Program) : Work Unit := do
  let r := runner set depthLimit
  let all (wanted : Pattern → Bool) : Bool := p.rules.any fun rule => wanted rule.pattern
  let guarded (body : Work Unit) : Work Unit := tryCatch body fun _ => return
  guarded do
    runOnce r p.rules Pattern.isStart
    if all Pattern.isOfRecords || all Pattern.isFinish then runRecords r p.rules turnLimit
  alter fun s => { s with frames := [] }
  guarded (runOnce r p.rules Pattern.isFinish)
  closeAll set.ev

/-! ## 7. Start -/

/-- The variables that a program starts with. -/
def initial (p : Process) (args : List Chars) : State :=
  let texts : List (String × Chars) :=
    [("FS", [' ']), ("OFS", [' ']), ("ORS", ['\n']), ("RS", ['\n']), ("SUBSEP", [Char.ofNat 28]),
     ("CONVFMT", "%.6g".toList), ("OFMT", "%.6g".toList), ("FILENAME", [])]
  let numbers : List (String × Int) :=
    [("NR", 0), ("FNR", 0), ("RSTART", 0), ("RLENGTH", -1), ("ARGC", args.length)]
  let slots := texts.map (fun (n, s) => (n, Slot.value (.text s))) ++
    numbers.map (fun (n, v) => (n, Slot.value (.number (Quantity.ofInt v)))) ++
    [("ENVIRON", .table 0), ("ARGV", .table 1)]
  let environ := (environment p).foldl
    (fun t (name, value) => t.put (String.ofList name) false (.input value)) Table.empty
  let argv := (args.zip (List.range args.length)).foldl
    (fun t (a, n) => t.put (toString n) true (.input a)) Table.empty
  { globals := Std.HashMap.ofList slots
    frames := []
    tables := Std.HashMap.ofList [(0, environ), (1, argv)]
    count := 2
    line := []
    separator := [' ']
    fields := none
    main := none
    argument := 1
    tookFile := false
    inputs := []
    outputs := []
    printed := []
    regexes := {}
    active := []
    seed := 0
    status := 0 }

end Awk

open Awk

/-- The options of `awk`. -/
def awkFlags : List Flag := valued "FvfW"

/-- Runs a program on the records of files. -/
def awk : Tool := fun ev args => do
  let g ← options awkFlags false 2 args
  let files := (g.options.filter (·.1 = 'f')).map (·.2)
  let (text, operands) ←
    if files.isEmpty then
      match g.operands with
      | t :: rest => pure (t, rest)
      | [] => do
        err "Usage: mawk [Options] [Program] [file ...]\n".toList
        ends 2
        throw .exits
    else do
      let texts ← files.mapM fun f => do
        match ← Tool.textOf f with
        | .ok t => return t ++ ['\n']
        | .error e =>
          refuse 2 ("cannot open \"".toList ++ f ++ "\" (".toList ++ reason e ++ [')'])
      pure (texts.flatten, g.operands)
  match Awk.read text with
  | .error e => refuse 2 e.toList
  | .ok p =>
    let start := Awk.initial (← process) ("awk".toList :: operands)
    let assign : Work Unit := do
      (g.options.filter (·.1 = 'F')).forM fun o =>
        setValue "FS" (.text (unmarked (o.2.length + 1) o.2))
      (g.options.filter (·.1 = 'v')).forM fun o => do
        match assignmentIn o.2 with
        | some (n, v) => setValue n (.input v)
        | none => return
    let work : Work Unit := do
      assign
      run ⟨ev, p.functions⟩ p
    let (_, s) ← work.run.run start
    return s.status

end DeviceKeys.Tool
