import DeviceKeys.Shell.Subshell
import DeviceKeys.Tool.Awk.Value
import DeviceKeys.Tool.Grep

/-! # The state of a running program of the pattern language

A `State` holds the variables, the record with its fields, and the streams that the program reads and
writes.

* A variable has no kind until it is used (`Slot`): an unused one that is passed to a function may
  become a table there.
* The fields of a record are cut when one is asked for, as was said when it was read, and the record is put together again when one
  is given a value.
* What is printed is kept until the program ends or starts another.
-/

namespace DeviceKeys.Tool.Awk

open Shell Act

/-! ## 1. State -/

/-- What a name stands for: a value, a table by its number, or one of both that is not decided yet. -/
inductive Slot where
  | value (v : Value)
  | table (number : Nat)
  | fresh (number : Nat)

/-- What is written to a file that is open, or to a command that runs when the stream is closed. -/
structure Stream where
  command : Bool
  texts : List Chars
  file : Option Nat

/-- The state of a program. -/
structure State where
  globals : Std.HashMap String Slot
  frames : List (List (String × Slot))
  tables : Std.HashMap Nat Table
  count : Nat
  line : Chars
  separator : Chars
  fields : Option (Array Value)
  main : Option Chars
  argument : Nat
  tookFile : Bool
  inputs : List (Chars × Chars)
  outputs : List (Chars × Stream)
  printed : List Chars
  regexes : Std.HashMap String Regex
  active : List Nat
  seed : Nat
  status : Nat

/-- How a statement ends early. -/
inductive Jump where
  | breaks
  | continues
  | next
  | nextFile
  | returns (v : Value)
  | exits

/-- What works on the state. -/
abbrev Work := ExceptT Jump (StateT State Act)

/-- Does what belongs to the process. -/
def system {α : Type} (act : Act α) : Work α := ExceptT.lift (StateT.lift act)

/-- The state. -/
def state : Work State := getThe State

/-- Changes the state. -/
def alter (f : State → State) : Work Unit := modifyThe State f

/-! ## 2. Names -/

/-- What a name stands for. -/
def slot? (n : String) : Work (Option Slot) := do
  let s ← state
  match s.frames.head?.bind (List.lookup n) with
  | some x => return some x
  | none => return s.globals.get? n

/-- Lets a name stand for something. -/
def setSlot (n : String) (x : Slot) : Work Unit :=
  alter fun s =>
    match s.frames with
    | f :: fs =>
      if (f.lookup n).isSome then
        { s with frames := (f.map fun p => if p.1 = n then (n, x) else p) :: fs }
      else { s with globals := s.globals.insert n x }
    | [] => { s with globals := s.globals.insert n x }

/-- The value of a global variable, as a text. -/
def globalText (s : State) (n : String) (format : Chars) : Chars :=
  match s.globals.get? n with
  | some (.value v) => v.toText format
  | _ => []

/-- The format for numbers that are used as texts. -/
def numberFormat : Work Chars := return globalText (← state) "CONVFMT" "%.6g".toList

/-- The text of a value. -/
def textOf (v : Value) : Work Chars := do
  match v with
  | .number _ => return v.toText (← numberFormat)
  | v => return v.toText []

/-- The text of a variable of the language. -/
def setting (n : String) : Work Chars := return globalText (← state) n (← numberFormat)

/-- The number of a variable of the language. -/
def settingNumber (n : String) : Work Quantity := do
  match (← state).globals.get? n with
  | some (.value v) => return v.toNumber
  | _ => return zero

/-- Gives a variable of the language a number. -/
def setNumber (n : String) (v : Int) : Work Unit :=
  alter fun s => { s with globals := s.globals.insert n (.value (.number (Quantity.ofInt v))) }

/-- Adds one to a variable of the language. -/
def countUp (n : String) : Work Unit := do
  let q := (← settingNumber n).sum (Quantity.ofNat 1)
  alter fun s => { s with globals := s.globals.insert n (.value (.number q)) }

/-! ## 3. Output and faults -/

/-- Writes what was printed. -/
def flush : Work Unit := do
  let texts := (← state).printed
  alter fun s => { s with printed := [] }
  system (put texts.reverse.flatten)

/-- Ends the program in a fault. -/
def fatal {α : Type} (text : Chars) : Work α := do
  flush
  system (refuse 2 text)

/-- The place in the input as a message shows it. -/
def whereabouts : Work Chars := do
  let name ← setting "FILENAME"
  let fnr ← textOf (.number (← settingNumber "FNR"))
  let nr ← textOf (.number (← settingNumber "NR"))
  return "\n\tFILENAME=\"".toList ++ name ++ "\" FNR=".toList ++ fnr ++ " NR=".toList ++ nr

/-- The text of a fault in an expression. -/
def regexFault : Regex.Fault → String
  | .openGroup => "missing ')'"
  | .openBracket => "bad class -- [], [^] or ["
  | .badPattern => "bad class -- [], [^] or ["
  | .nothingRepeated => "missing operand"
  | e => e.message

/-- The expression that a text spells. -/
def regexFor (text : Chars) : Work Regex := do
  let key := String.ofList text
  match (← state).regexes.get? key with
  | some r => return r
  | none =>
    match Regex.read ⟨true, true, false⟩ text with
    | .ok r => do
      alter fun s => { s with regexes := s.regexes.insert key r }
      return r
    | .error e =>
      fatal ("line 1: regular expression compile failed (".toList ++ (regexFault e).toList ++
        ")\n".toList ++ text)

/-! ## 4. Tables -/

/-- The number of the table that a name stands for. -/
def tableNumber (n : String) : Work Nat := do
  let ready (k : Nat) : Work Nat := do
    setSlot n (.table k)
    alter fun s => { s with tables := s.tables.insertIfNew k Table.empty }
    return k
  match ← slot? n with
  | some (.table k) => return k
  | some (.fresh k) => ready k
  | some (.value .none) | none => do
    let k := (← state).count
    alter fun s => { s with count := k + 1 }
    ready k
  | some (.value _) => fatal ("can't use scalar ".toList ++ n.toList ++ " as array".toList)

/-- A table by its number. -/
def table (k : Nat) : Work Table := return ((← state).tables.get? k).getD Table.empty

/-- Changes a table. -/
def alterTable (k : Nat) (f : Table → Table) : Work Unit :=
  alter fun s =>
    let t := (s.tables.get? k).getD Table.empty
    { s with tables := (s.tables.erase k).insert k (f t) }

/-- The value of an element, which is made if it is not there. -/
def elementValue (k : Nat) (key : String) (whole : Bool) : Work Value := do
  match (← table k).get? key with
  | some v => do
    alterTable k fun t => t.touched key whole
    return v
  | none => do
    alterTable k fun t => t.put key whole .none
    return .none

/-! ## 5. Fields -/

/-- How a record is cut: at white space, into its characters, at a character, or at an expression. -/
inductive Cutter where
  | blanks
  | chars
  | char (c : Char)
  | regex (r : Regex)

/-- Cuts a text at white space. -/
def cutAtBlanks : Chars → Chars → List Chars
  | taken, [] => if taken.isEmpty then [] else [taken.reverse]
  | taken, c :: r =>
    if c = ' ' || c = '\t' || c = '\n' then
      if taken.isEmpty then cutAtBlanks [] r else taken.reverse :: cutAtBlanks [] r
    else cutAtBlanks (c :: taken) r

/-- Cuts a text at the parts that an expression describes, a count of them at most. -/
def cutAtMatches (r : Regex) (v : Regex.View) (text : Chars) : Nat → Nat → Nat → List Chars
  | 0, start, _ => [text.drop start]
  | n + 1, start, place =>
    match if place ≤ v.text.size then r.search v place else none with
    | none => [text.drop start]
    | some f =>
      if f.stop = f.start then
        if v.text.size ≤ f.stop then [text.drop start]
        else cutAtMatches r v text n start (f.stop + 1)
      else (text.drop start).take (f.start - start) :: cutAtMatches r v text n f.stop f.stop

/-- Cuts a text. -/
def cut (c : Cutter) (text : Chars) : List Chars :=
  match c with
  | .blanks => cutAtBlanks [] text
  | .chars => text.map fun c => [c]
  | .char c => if text.isEmpty then [] else text.splitOn c
  | .regex r =>
    if text.isEmpty then []
    else cutAtMatches r (r.lineView false text) text (text.length + 1) 0 0

/-- How a separator cuts. -/
def cutterOf (separator : Chars) : Work Cutter := do
  match separator with
  | [' '] => return .blanks
  | [] => return .chars
  | [c] => return .char c
  | s => return .regex (← regexFor s)

/-- The fields of the record. -/
def fieldValues : Work (Array Value) := do
  let s ← state
  match s.fields with
  | some a => return a
  | none =>
    let cutter ← cutterOf s.separator
    let paragraphs := (← setting "RS").isEmpty
    let parts :=
      match cutter with
      | .blanks => cut .blanks s.line
      | c => if paragraphs then (cut (.char '\n') s.line).flatMap (cut c) else cut c s.line
    let a := (parts.map Value.input).toArray
    alter fun s => { s with fields := some a }
    return a

/-- Takes a text as the record. It is cut as the variable for it says now. -/
def setLine (text : Chars) : Work Unit := do
  let separator ← setting "FS"
  alter fun s => { s with line := text, separator := separator, fields := none }

/-- Takes fields as the record. -/
def setFields (a : Array Value) : Work Unit := do
  let separator ← setting "OFS"
  let texts ← a.toList.mapM textOf
  alter fun s => { s with line := List.intercalate separator texts, fields := some a }

/-- The greatest number of a field. -/
def fieldLimit : Nat := 100000

/-- The value of a field. -/
def fieldValue (n : Int) : Work Value := do
  if n = 0 then return .input (← state).line
  else if n < 0 then fatal ("negative field index $".toList ++ (toString n).toList)
  else
    match (← fieldValues)[n.toNat - 1]? with
    | some v => return v
    | none => return .none

/-- Gives a field a value. -/
def setField (n : Int) (v : Value) : Work Unit := do
  if n = 0 then setLine (← textOf v)
  else if n < 0 || fieldLimit < n.toNat then
    fatal ("field index $".toList ++ (toString n).toList ++ " out of range".toList)
  else
    let a ← fieldValues
    let k := n.toNat
    let a := if a.size < k then a ++ Array.replicate (k - a.size) (Value.text []) else a
    setFields (a.set! (k - 1) v)

/-- Leaves a count of fields. -/
def setFieldCount (n : Int) : Work Unit := do
  let a ← fieldValues
  let k := min n.toNat fieldLimit
  setFields (if a.size < k then a ++ Array.replicate (k - a.size) (Value.text []) else a.extract 0 k)

/-! ## 6. Variables -/

/-- The value of a variable. -/
def valueOf (n : String) : Work Value := do
  if n = "NF" then return .number (Quantity.ofNat (← fieldValues).size)
  else
    match ← slot? n with
    | some (.value v) => return v
    | some (.table _) => fatal ("illegal reference to array ".toList ++ n.toList)
    | _ => return .none

/-- Gives a variable a value. -/
def setValue (n : String) (v : Value) : Work Unit := do
  if n = "NF" then setFieldCount v.toNumber.toInt
  else
    match ← slot? n with
    | some (.table _) => fatal ("illegal reference to array ".toList ++ n.toList)
    | _ => setSlot n (.value v)

/-! ## 7. Input -/

/-- Takes a record off a text. -/
def recordOf (cutter : Cutter) (text : Chars) : Option (Chars × Chars) :=
  match cutter with
  | .blanks => takeAt ' ' text
  | .char c => takeAt c text
  | .chars =>
    let s := text.dropWhile (· = '\n')
    if s.isEmpty then none
    else
      let (record, rest) := paragraph [] s
      some (record, rest)
  | .regex r =>
    if text.isEmpty then none
    else
      match r.search (r.lineView false text) 0 with
      | some f =>
        if f.start = f.stop then some (text, []) else some (text.take f.start, text.drop f.stop)
      | none => some (text, [])
where
  /-- Takes what stands in front of a character. -/
  takeAt (c : Char) (text : Chars) : Option (Chars × Chars) :=
    if text.isEmpty then none
    else
      let record := text.takeWhile (· ≠ c)
      some (record, text.drop (record.length + 1))
  /-- Takes lines up to an empty one. -/
  paragraph : Chars → Chars → Chars × Chars
    | taken, '\n' :: '\n' :: r => (taken.reverse, r.dropWhile (· = '\n'))
    | taken, ['\n'] => (taken.reverse, [])
    | taken, c :: r => paragraph (c :: taken) r
    | taken, [] => (taken.reverse, [])

/-- Takes a record off a text as the variable for it says. -/
def takeRecord (text : Chars) : Work (Option (Chars × Chars)) := do
  return recordOf (← cutterOf (← setting "RS")) text

/-- The text is a variable with a value behind an equals sign. -/
def assignmentIn (a : Chars) : Option (String × Chars) :=
  let name := a.takeWhile (· ≠ '=')
  let fits := name.length < a.length && (name.head?).any startsName &&
    name.all fun c => startsName c || c.isDigit
  if fits then
    let value := a.drop (name.length + 1)
    some (String.ofList name, unmarked (value.length + 1) value)
  else none

/-- Opens the next file of the arguments, a count of them at most. False when there is none. -/
def openNext : Nat → Work Bool
  | 0 => return false
  | n + 1 => do
    let s ← state
    let count := (← settingNumber "ARGC").toInt
    let opens (name text : Chars) : Work Bool := do
      alter fun s =>
        { s with
          main := some text
          tookFile := true
          globals := s.globals.insert "FILENAME" (.value (.text name)) }
      setNumber "FNR" 0
      return true
    if (s.argument : Int) < count then
      alter fun s => { s with argument := s.argument + 1 }
      let k ← tableNumber "ARGV"
      match (← table k).get? (toString s.argument) with
      | none => openNext n
      | some v =>
        let a ← textOf v
        if a.isEmpty then openNext n
        else
          match assignmentIn a with
          | some (name, value) => do
            setValue name (.input value)
            openNext n
          | none =>
            match ← system (Tool.textOf a) with
            | .ok text => opens (if a = ['-'] then [] else a) text
            | .error .isDirectory => fatal "read error (Is a directory)".toList
            | .error e => fatal ("cannot open \"".toList ++ a ++ "\" (".toList ++ reason e ++ [')'])
    else if s.tookFile then return false
    else
      let text ← system (readAll 0)
      opens [] text

/-- The next record of the main input. A count of files at most is opened for it. -/
def nextRecord : Nat → Work (Option Chars)
  | 0 => return none
  | n + 1 => do
    let opened ← if (← state).main.isNone then openNext 10000 else pure true
    if !opened then return none
    else
      match ← takeRecord ((← state).main.getD []) with
      | some (record, rest) => do
        alter fun s => { s with main := some rest }
        countUp "NR"
        countUp "FNR"
        return some record
      | none => do
        alter fun s => { s with main := none }
        nextRecord n

/-- The next record of the main input. -/
def mainRecord : Work (Option Chars) := nextRecord 10000

/-- Runs a command of the shell. -/
def runCommand (ev : Evaluator) (command : Chars) : Act Nat := do
  match ← ev.exec ["sh".toList, "-c".toList, command] with
  | .ok (.exited status) => return status
  | .ok (.signaled n) => return 256 + n
  | .error _ => return 127

/-- What is left to read of a file or of what a command prints. -/
def inputText (ev : Evaluator) (origin : Origin) (name : Chars) : Work (Option Chars) := do
  match (← state).inputs.lookup name with
  | some text => return some text
  | none =>
    if origin = .command then
      flush
      let (text, _) ← system (capture ev do
        let _ ← runCommand ev name)
      return some text
    else
      match ← system (Tool.textOf (if name = "/dev/stdin".toList then ['-'] else name)) with
      | .ok text => return some text
      | .error _ => return none

/-- Reads a record from a file or from what a command prints. -/
def readFrom (ev : Evaluator) (origin : Origin) (name : Chars) : Work (Option (Option Chars)) := do
  match ← inputText ev origin name with
  | none => return none
  | some text => do
    let keep (rest : Chars) : Work Unit :=
      alter fun s => { s with inputs := (name, rest) :: s.inputs.filter (·.1 ≠ name) }
    match ← takeRecord text with
    | some (record, rest) => do
      keep rest
      return some (some record)
    | none => do
      keep []
      return some none

/-! ## 8. Output -/

/-- Runs a command with a text as its input. -/
def feed (ev : Evaluator) (command text : Chars) : Act Nat := do
  let k ← newPipe
  modify fun m => { m with pipes := (k, ⟨[text], text.length⟩) :: m.pipes }
  let n ← openAt (.pipe k false)
  let streams := (← process).streams
  lead 0 (some n)
  let status ← runCommand ev command
  change fun p => { p with streams := streams }
  return status

/-- Writes what a stream holds, and gives the status of its command. -/
def finish (ev : Evaluator) (name : Chars) (x : Stream) : Act Nat := do
  let text := x.texts.reverse.flatten
  if x.command then feed ev name text
  else
    match x.file with
    | some n =>
      match (← get).files.lookup n with
      | some e => do
        let _ ← writeTo n e text
        return 0
      | none => return 0
    | none => return 0

/-- Prints a text to where a stream leads. -/
def printTo (name : Chars) (command append : Bool) (text : Chars) : Work Unit := do
  if !command && (name = "/dev/stdout".toList || name = ['-']) then
    alter fun s => { s with printed := text :: s.printed }
  else if !command && name = "/dev/stderr".toList then system (err text)
  else
    match (← state).outputs.lookup name with
    | some _ =>
      alter fun s =>
        { s with
          outputs := s.outputs.map fun (n, x) =>
            if n = name then (n, { x with texts := text :: x.texts }) else (n, x) }
    | none =>
      let file ←
        if command then do
          flush
          pure none
        else do
          match ← system (Redirection.openFile name (if append then .append else .write)) with
          | .ok n => pure (some n)
          | .error e =>
            fatal ("cannot open \"".toList ++ name ++ "\" for output (".toList ++ reason e ++ [')'])
      alter fun s => { s with outputs := s.outputs ++ [(name, ⟨command, [text], file⟩)] }

/-- Closes a stream, and gives the status of its command or the sign that there is none. -/
def closeStream (ev : Evaluator) (name : Chars) : Work Int := do
  let s ← state
  match s.outputs.lookup name with
  | some x => do
    alter fun s => { s with outputs := s.outputs.filter (·.1 ≠ name) }
    return (← system (finish ev name x))
  | none =>
    if (s.inputs.lookup name).isSome then
      alter fun s => { s with inputs := s.inputs.filter (·.1 ≠ name) }
      return 0
    else return -1

/-- Writes what files hold that are open for writing. -/
def flushFiles : Work Unit := do
  let s ← state
  s.outputs.forM fun (_, x) => do
    if !x.command then
      match x.file with
      | some n =>
        match (← system get).files.lookup n with
        | some e => do
          let _ ← system (writeTo n e x.texts.reverse.flatten)
        | none => return
      | none => return
  alter fun s =>
    { s with
      outputs := s.outputs.map fun (n, x) => (n, if x.command then x else { x with texts := [] }) }

/-- Closes all streams and writes what was printed. -/
def closeAll (ev : Evaluator) : Work Unit := do
  let s ← state
  alter fun s => { s with outputs := [] }
  s.outputs.forM fun (name, x) => do
    let _ ← system (finish ev name x)
  flush

end DeviceKeys.Tool.Awk
