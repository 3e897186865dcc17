import DeviceKeys.Shell.Builtin.All
import DeviceKeys.Tool.All

/-! # Running commands

`Evaluation.evaluator` runs commands and starts programs. Its parts take an `Evaluator` for the
commands inside a command, and the whole is tied to itself a bounded number of times.

A simple command is run in this order:

1. its words are expanded, then its redirections are applied, then the values in front of it are
   expanded and given;
2. with the option `-x` it is shown;
3. it is a function, a command of the shell, or a program that is looked for in `PATH`.

With the option `-e` a command that fails ends the shell, unless its status is looked at
(`Process.tested`).
-/

namespace DeviceKeys.Shell

namespace Evaluation

open Act

/-! ## 1. Helpers -/

/-- Runs a body, and then something else however the body ends. -/
def ensuring {α : Type} (body : Act α) (last : Act Unit) : Act α := do
  try
    let a ← body
    last
    return a
  catch l => do
    last
    throw l

/-- Runs a body of which the status is looked at. -/
def tested (body : Act Unit) : Act Unit := do
  let before := (← process).tested
  ensuring (do change fun p => { p with tested := true }; body)
    (change fun p => { p with tested := before })

/-- Ends the shell if a command failed that had to succeed. -/
def check : Act Unit := do
  let p ← process
  if p.status ≠ 0 && isSet p 'e' && !p.tested then throw .exits

/-- The status of the command that ran last. -/
def lastStatus : Act Nat := return (← process).status

/-! ## 2. Programs -/

/-- A process in which a program starts by a name: it has the variables that are passed on and
    ignores the signals that are ignored. -/
def fresh (name : Chars) (p : Process) : Process where
  number := p.number
  shell := p.number
  parent := p.parent
  dir := p.dir
  logical := p.logical
  mask := p.mask
  streams := p.streams
  bindings := (environment p).map fun (name, value) => (name, ⟨some value, true, false⟩)
  functions := []
  aliases := []
  name := name
  arguments := []
  options := []
  traps := p.traps.filter (·.2.isEmpty)
  status := 0
  held := none
  outputStatus := 0
  line := 0
  reached := 0
  label := none
  loops := 0
  calls := 0
  saved := []
  background := none
  tested := false
  hashed := []
  optionIndex := 1
  optionPlace := 0

/-- Runs a program in the process that runs. -/
def become (ev : Evaluator) (s : Search.Started) (tool : Tool) : Act Unit := do
  change (fresh s.name)
  ends (← tool ev s.arguments)

/-- Starts a program in a process of its own. -/
def exec (ev : Evaluator) (args : List Chars) : Act (Except IoFault Ending) := do
  match args with
  | [] => return .error .noEntry
  | name :: rest =>
    let list := (valueOf? (← process) "PATH".toList).getD Search.defaultList.toList
    let paths := Search.candidates list name
    match Search.firstProgram (← fs) name rest paths with
    | .error e => return .error e
    | .ok started =>
      match Tool.find? started.program with
      | none => return .error .execFormat
      | some tool => return .ok (← inChild id (become ev started tool))

/-- Starts a program for the shell and tells when it cannot be started. -/
def program (ev : Evaluator) (args : List Chars) : Act Unit := do
  let name := args.headD []
  let refused (status : Nat) (e : IoFault) : Act Unit := do
    complain (name ++ ": ".toList ++ unstartedReason e)
    ends status
  let found ← if name.contains '/' then pure (.ok name) else whereIs name
  match found with
  | .error e => refused 127 e
  | .ok _ =>
    match ← ev.exec args with
    | .error e => refused (unstartedStatus e) e
    | .ok ending => do
      tellKilled ending
      ends (statusOf ending)

/-! ## 3. Functions -/

/-- Calls a function with arguments. -/
def call (ev : Evaluator) (body : Command) (args : List Chars) : Act Unit := do
  let own ← process
  change fun p =>
    { p with
      arguments := args
      optionIndex := 1
      optionPlace := 0
      loops := 0
      calls := p.calls + 1
      saved := [] :: p.saved }
  ensuring
    (try ev.run body
     catch
      | .returns => pure ()
      | l => throw l)
    (do
      Builtin.putBack
      change fun p =>
        { p with
          arguments := own.arguments
          optionIndex := own.optionIndex
          optionPlace := own.optionPlace
          loops := own.loops
          calls := own.calls
          tested := own.tested })

/-! ## 4. Simple commands -/

/-- What a simple command comes down to. -/
inductive Action where
  | none
  | function (body : Command)
  | builtin (special : Bool) (b : Builtin)
  | describe (words : Bool) (names : List Chars)
  | program

/-- What the words of a command come down to, with the words that count. Behind `command` functions
    do not count, and no command is special. -/
def resolve (p : Process) : Nat → Bool → List Chars → Act (Action × List Chars)
  | 0, _, args => return (.none, args)
  | _, _, [] => return (.none, [])
  | n + 1, plain, name :: args => do
    let function := if plain then p.functions.lookup name else Option.none
    match function with
    | some body => return (.function body, name :: args)
    | Option.none =>
      if name = "command".toList then
        change fun p => { p with label := some name }
        let (os, rest) ← Builtin.options "pvV" args
        match os.reverse.find? fun o => o.1 ≠ 'p' with
        | some (c, _) => return (.describe (c = 'V') (rest.take 1), name :: args)
        | Option.none => resolve p n false rest
      else
        match Builtin.find? name with
        | some (special, b) => return (.builtin (special && plain) b, name :: args)
        | Option.none => return (.program, name :: args)

/-- The names of the commands that take values as arguments. -/
def assigners : List String := ["alias", "export", "local", "readonly"]

/-- Expands the words of a command. Behind a command that takes values, words that give a value are
    not cut into fields. -/
def expandWords (ev : Evaluator) : List Word → List Chars → Act (List Chars)
  | [], done => return done
  | w :: ws, done => do
    let isAssigner (a : Chars) : Bool := assigners.contains (String.ofList a)
    let takesValues :=
      match done.dropWhile fun a => a = "command".toList with
      | a :: _ => isAssigner a
      | [] => false
    match if takesValues then w.assignment? else none with
    | some (name, value) => do
      let text ← Expansion.assigned ev value
      expandWords ev ws (done ++ [name ++ '=' :: text])
    | none => do expandWords ev ws (done ++ (← Expansion.fields ev w))

/-- Gives values in front of a command for its time alone. -/
def giveFor (assignments : List (Chars × Chars)) (body : Act Unit) : Act Unit := do
  let before ← process
  let restore : Act Unit :=
    change fun p =>
      assignments.foldl (fun p (name, _) =>
        match binding? before name with
        | some v => withVariable p name v
        | none => withoutVariable p name) { p with hashed := before.hashed }
  ensuring
    (do
      assignments.forM fun (name, value) => assign name value true
      body)
    (do if !assignments.isEmpty then restore)

/-- Runs a command of the shell. A fault in one that is not special ends only that command. -/
def builtin (ev : Evaluator) (special : Bool) (b : Builtin) (args : List Chars) : Act Unit := do
  let label := (← process).label
  let restore : Act Unit := change fun p => { p with label := label }
  try
    change fun p => { p with label := args.head? }
    let status ← b ev (args.drop 1)
    change fun p => { p with label := label, status := status }
  catch l => do
    restore
    match l with
    | .fails => if special then throw l else return
    | l => throw l

/-- Shows a command on a stream of error messages, if that is asked for. -/
def trace (stream : Option Nat) (assignments : List (Chars × Chars)) (args : List Chars) :
    Act Unit := do
  let p ← process
  if isSet p 'x' then
    let words := assignments.map (fun (name, value) => name ++ '=' :: value) ++ args
    let text := valueOf p "PS4" ++ List.intercalate [' '] words ++ ['\n']
    let m ← get
    match stream.bind fun n => (m.files.lookup n).map (n, ·) with
    | some (n, e) => do
      let _ ← writeTo n e text
    | none => return

/-- Runs a command whose words are known. -/
def act (ev : Evaluator) (action : Action) (args : List Chars) : Act Unit := do
  match action with
  | .none => ends (← process).outputStatus
  | .function body => call ev body (args.drop 1)
  | .builtin special b => builtin ev special b args
  | .describe words names =>
    builtin ev false (fun _ _ => Builtin.shows words names) args
  | .program => program ev args

/-- Runs a simple command. -/
def simple (ev : Evaluator) (line : Nat) (assignments : List (Chars × Word)) (words : List Word)
    (redirects : List Redirect) : Act Unit := do
  change fun p => { p with line := line, outputStatus := 0 }
  let all ← expandWords ev words []
  let p ← process
  let errors := p.streams.lookup 2
  let label := p.label
  let resolved ←
    try pure (some (← resolve p (all.length + 1) true all))
    catch
      | .fails => pure none
      | l => throw l
  change fun p => { p with label := label }
  match resolved with
  | none => return
  | some (action, args) =>
    let (special, isBuiltin) :=
      match action with
      | .builtin special _ => (special, true)
      | _ => (false, false)
    let stays :=
      match action with
      | .none => true
      | _ => special
    let keeps := isBuiltin && args.head? = some "exec".toList
    let streams := p.streams
    let targets ← redirects.mapM (Redirection.target ev)
    let values (body : List (Chars × Chars) → Act Unit) : Act Unit := do
      if stays then
        let given ← assignments.mapM fun (name, w) => do
          let value ← Expansion.assigned ev w
          assign name value keeps
          return (name, value)
        body given
      else
        let given ← assignments.mapM fun (name, w) => do
          return (name, ← Expansion.assigned ev w)
        giveFor given (body given)
    if ← Redirection.applyAll ev targets then
      ensuring
        (values fun given => do
          trace errors given all
          act ev action args)
        (do if !keeps then Redirection.restore streams)
    else
      ends 2
      if special then throw .fails

/-! ## 5. Commands that hold others -/

/-- A bound on the count of turns of a loop. -/
def turnLimit : Nat := 1000000000

/-- What a turn of a loop says about the next. -/
inductive Turn where
  | again
  | over
  | leave (l : Leave)

/-- Runs a turn of a loop. -/
def turn (body : Act Bool) : Act Turn := do
  let before := (← process).tested
  try return if ← body then .again else .over
  catch l => do
    change fun p => { p with tested := before }
    match l with
    | .breaks 0 => return .over
    | .breaks 1 => return .over
    | .breaks (n + 1) => return .leave (.breaks n)
    | .continues 0 => return .again
    | .continues 1 => return .again
    | .continues (n + 1) => return .leave (.continues n)
    | l => return .leave l

/-- Runs a body in a loop. -/
def inLoop (body : Act Unit) : Act Unit := do
  change fun p => { p with loops := p.loops + 1 }
  ensuring body (change fun p => { p with loops := p.loops - 1 })

/-- Runs turns as long as they ask for another one. -/
def turns (body : Act Bool) : Nat → Act Unit
  | 0 => return
  | n + 1 => do
    match ← turn body with
    | .again => turns body n
    | .over => return
    | .leave l => throw l

/-- Repeats a body as long as a test succeeds, or fails. -/
def loop (ev : Evaluator) (whileFails : Bool) (test body : Command) : Act Unit := do
  inLoop do
    ends 0
    turns (do
      let status ← lastStatus
      tested (ev.run test)
      if ((← lastStatus) = 0) != whileFails then
        ev.run body
        return true
      else
        ends status
        return false) turnLimit

/-- Runs a body for each of some values of a variable. -/
def each (ev : Evaluator) (name : Chars) (body : Command) : List Chars → Act Unit
  | [] => return
  | value :: values => do
    assign name value false
    match ← turn (do ev.run body; return true) with
    | .again => each ev name body values
    | .over => return
    | .leave l => throw l

/-- Runs the first clause of which a pattern fits. -/
def select (ev : Evaluator) (subject : Chars) : List (List Word × Command) → Act Unit
  | [] => ends 0
  | (patterns, body) :: rest => do
    let rec fits : List Word → Act Bool
      | [] => return false
      | w :: ws => do
        if (← Expansion.pattern ev w).fits subject then return true else fits ws
    if ← fits patterns then
      match body with
      | .nothing => ends 0
      | body => ev.run body
    else select ev subject rest

/-- Runs the stages of a pipeline one after the other. `input` is the open file that the first of
    them reads. -/
def stages (ev : Evaluator) : Option Nat → List Command → Act Unit
  | _, [] => return
  | input, c :: rest => do
    let reading : Act Unit := do
      match input with
      | some n => lead 0 (some n)
      | none => return
    match rest with
    | [] => ends (← subshell ev (do reading; ev.run c))
    | rest => do
      let k ← newPipe
      let n ← openAt (.pipe k true)
      let _ ← subshell ev (do reading; lead 1 (some n); ev.run c)
      runHolding ev n
      stages ev (some n) rest

/-- Puts a command into the background. It reads nothing. -/
def background (c : Command) : Act Unit := do
  let n ← openAt .nowhere
  let m ← get
  let number := m.lastProcess + 1
  let p := copied m.current
  let p :=
    { p with
      number := number
      parent := m.current.number
      streams := (0, n) :: p.streams.filter (·.1 ≠ 0) }
  set { m with pending := m.pending ++ [(p, c)], lastProcess := number }
  change fun p => { p with background := some number, status := 0 }

/-- The commands that run one after the other. -/
def spine : Command → List Command → List Command
  | .sequence c d, rest => spine c (spine d rest)
  | c, rest => c :: rest

/-- Runs a command, unless the shell is to run none. -/
def evaluate (ev : Evaluator) (c : Command) : Act Unit := do
  takeSignals ev
  let c := if isSet (← process) 'n' then .nothing else c
  match c with
  | .nothing => return
  | .simple line assignments words redirects =>
    simple ev line assignments words redirects
    takeSignals ev
    check
  | .pipeline cs =>
    stages ev none cs
    takeSignals ev
    check
  | .sequence c d => (spine c (spine d [])).forM ev.run
  | .both c d =>
    tested (ev.run c)
    if (← lastStatus) = 0 then ev.run d
  | .either c d =>
    tested (ev.run c)
    if (← lastStatus) ≠ 0 then ev.run d
  | .negated c =>
    tested (ev.run c)
    ends (if (← lastStatus) = 0 then 1 else 0)
  | .background c => background c
  | .grouped line body redirects =>
    change fun p => { p with line := line }
    if !(← Redirection.during ev redirects (ev.run body)) then
      ends 2
      check
  | .subshell line body redirects =>
    change fun p => { p with line := line }
    let targets ← redirects.mapM (Redirection.target ev)
    ends (← subshell ev do
      targets.forM (Redirection.apply ev)
      ev.run body)
    takeSignals ev
    check
  | .choice test yes no =>
    tested (ev.run test)
    let chosen := if (← lastStatus) = 0 then yes else no
    match chosen with
    | .nothing => ends 0
    | c => ev.run c
  | .loop whileFails test body => loop ev whileFails test body
  | .each line name values body =>
    change fun p => { p with line := line }
    let fields ← values.mapM (Expansion.fields ev)
    ends 0
    inLoop (each ev name body fields.flatten)
  | .select line subject clauses =>
    change fun p => { p with line := line }
    select ev (← Expansion.text ev subject) clauses
  | .define _ name body =>
    change fun p =>
      { p with functions := (name, body) :: p.functions.filter (·.1 ≠ name), status := 0 }

/-! ## 6. The whole -/

/-- The depth to which commands may run inside each other. -/
def depthLimit : Nat := 4000

/-- The signal to a process that has used up its stack. -/
def overflow : Nat := 11

/-- Runs commands and programs inside each other to a depth. -/
def evaluator : Nat → Evaluator
  | 0 => ⟨fun _ => throw (.killed overflow), fun _ => return .error .noSpace⟩
  | n + 1 =>
    let below := evaluator n
    ⟨evaluate below, exec below⟩

end Evaluation

end DeviceKeys.Shell
