import DeviceKeys.Manager

/-! # The command line

What the arguments of a run say (`Invocation`), and how they are read (`Invocation.ofArguments`).

* Options that take a value are written `--name=value` or `--name value`; the latter form takes no
  value that starts with a hyphen, unless it is just a hyphen. Each option is given at most once at
  each level, before the command or after it; after the command counts more.
* The argument of an option is judged when the next option is met, or at the end (`Scan.settle`), so
  an unknown argument that comes later is reported first.
* After `--` no argument is an option or a command.
* Among the flags of `keymgr` the first of generate, export-key and cmake-dump decides
  (`KeymgrFlags.operation`).
-/

namespace DeviceKeys

/-! ## 1. What arguments say -/

/-- The flags of the command `keymgr`. -/
structure KeymgrFlags where
  generate : Bool
  deviceId : Option String
  manufacturerId : Option String
  exportKey : Bool
  cmakeDump : Option Path
  deriving DecidableEq

/-- The operation that the flags select. An empty path for the key table counts as none. -/
def KeymgrFlags.operation (f : KeymgrFlags) : Operation :=
  if f.generate then .generate f.deviceId f.manufacturerId
  else if f.exportKey then .exportKey f.deviceId
  else
    match f.cmakeDump.filter fun p => !p.bytes.isEmpty with
    | some output => .cmakeDump output
    | none => .fetchManufacturerId f.deviceId

/-- What a run is to do. -/
inductive Command where
  | keymgr (flags : KeymgrFlags)
  | exportCompileCommands
  deriving DecidableEq

/-- What the arguments of a run say. -/
structure Invocation where
  projectRoot : Option Path
  keysFile : Option Path
  command : Command
  deriving DecidableEq

/-- Why arguments are not accepted, the two requests for information included. -/
inductive ArgumentFault where
  | unknownArgument
  | unknownCommand
  | invalidValue
  | repeated
  | unexpectedValue
  | missingCommand
  | notUtf8
  | nothingGiven
  | help
  | version
  deriving DecidableEq, Repr

/-- The exit status when arguments are not accepted. -/
def ArgumentFault.exitStatus : ArgumentFault → Nat
  | .help => 0
  | .version => 0
  | _ => exitUsage

/-! ## 2. Reading -/

/-- An option that takes a value. -/
inductive ValueOption where
  | projectRoot
  | keysFile
  | deviceId
  | manufacturerId
  | cmakeDump
  deriving DecidableEq, Repr

/-- A flag of `keymgr`. -/
inductive Flag where
  | generate
  | exportKey
  deriving DecidableEq, Repr

/-- What stands behind two hyphens. -/
inductive LongName where
  | value (o : ValueOption)
  | flag (f : Flag)
  | help
  | version
  deriving DecidableEq, Repr

/-- Where an argument stands: before the command, or after one of them. -/
inductive Level where
  | top
  | keymgr
  | exportCompileCommands
  deriving DecidableEq, Repr

/-- The names that are known at a level. -/
def Level.longNames (l : Level) : List (String × LongName) :=
  [("project-root", .value .projectRoot), ("keys-file", .value .keysFile), ("help", .help)] ++
    match l with
    | .top => [("version", .version)]
    | .keymgr =>
      [("generate", .flag .generate), ("export-key", .flag .exportKey),
        ("dev-id", .value .deviceId), ("manufacturer-id", .value .manufacturerId),
        ("cmake-dump", .value .cmakeDump)]
    | .exportCompileCommands => []

/-- The meaning of a name at a level. -/
def Level.longName? (l : Level) (name : Bytes) : Option LongName :=
  (l.longNames.find? fun e => Utf8.ofString e.1 = name).map (·.2)

/-- The names of the commands. -/
def commandNames : List (String × Level) :=
  [("keymgr", .keymgr), ("export-compile-commands", .exportCompileCommands)]

/-- The command that an argument names. -/
def commandOf? (arg : Bytes) : Option Level :=
  (commandNames.find? fun e => Utf8.ofString e.1 = arg).map (·.2)

/-- The argument asks for help on commands. -/
def isHelpWord (arg : Bytes) : Bool := arg = Utf8.ofString "help"

/-- What the arguments after the word `help` lead to: help, if they name at most one command. -/
def helpOn : List Bytes → ArgumentFault
  | [] => .help
  | [arg] => if isHelpWord arg || (commandOf? arg).isSome then .help else .unknownCommand
  | _ => .unknownCommand

/-- The arguments read so far at one level. An option that waits for its value, or whose value has
    not been judged, is pending. -/
structure Scan where
  values : List (ValueOption × Bytes)
  flags : List Flag
  pending : Option (ValueOption × Option Bytes)
  deriving DecidableEq

namespace Scan

/-- Nothing read. -/
def empty : Scan := ⟨[], [], none⟩

/-- A value that an option accepts. -/
def judge (o : ValueOption) (value : Bytes) : Except ArgumentFault Unit :=
  match o with
  | .projectRoot => if value.isEmpty then .error .invalidValue else .ok ()
  | .keysFile => if value.isEmpty then .error .invalidValue else .ok ()
  | .cmakeDump => .ok ()
  | _ => if (Utf8.toString? value).isSome then .ok () else .error .notUtf8

/-- Records the value of an option. -/
def record (s : Scan) (o : ValueOption) (value : Bytes) : Except ArgumentFault Scan :=
  if (s.values.lookup o).isSome then .error .repeated
  else do
    judge o value
    .ok { s with values := s.values ++ [(o, value)] }

/-- Settles what is pending. -/
def settle (s : Scan) : Except ArgumentFault Scan :=
  match s.pending with
  | none => .ok s
  | some (_, none) => .error .invalidValue
  | some (o, some value) => { s with pending := none }.record o value

/-- The next argument may be the value of an option. -/
def awaits (s : Scan) : Bool :=
  match s.pending with
  | some (_, none) => true
  | _ => false

/-- Takes the value that is awaited. -/
def take (s : Scan) (value : Bytes) : Scan :=
  { s with pending := s.pending.map fun p => (p.1, some value) }

/-- Reads an argument that starts with two hyphens, without them. -/
def long (l : Level) (s : Scan) (body : Bytes) : Except ArgumentFault Scan :=
  let name := body.takeWhile (· ≠ 0x3D)
  let value := if name.length < body.length then some (body.drop (name.length + 1)) else none
  match l.longName? name, value with
  | none, _ => .error .unknownArgument
  | some (.value o), some value => do (← s.settle).record o value
  | some (.value o), none => do .ok { ← s.settle with pending := some (o, none) }
  | some _, some _ => .error .unexpectedValue
  | some (.flag f), none => do
    let s ← s.settle
    if f ∈ s.flags then .error .repeated else .ok { s with flags := s.flags ++ [f] }
  | some .help, none => do
    let _ ← s.settle
    .error .help
  | some .version, none => do
    let _ ← s.settle
    .error .version

/-- Reads an argument that starts with one hyphen, without it. -/
def short (l : Level) (s : Scan) (body : Bytes) : Except ArgumentFault Scan :=
  match body with
  | 0x68 :: _ => do
    let _ ← s.settle
    .error .help
  | 0x56 :: _ =>
    if l = .top then do
      let _ ← s.settle
      .error .version
    else .error .unknownArgument
  | _ => .error .unknownArgument

/-- What an argument is that is no option, no value and no command. A word that would be a command
    or ask for help, had it not come after `--`, is an argument too many. -/
def stray (l : Level) (trailing : Bool) (arg : Bytes) : ArgumentFault :=
  match l with
  | .top =>
    if trailing && (isHelpWord arg || (commandOf? arg).isSome) then .unknownArgument
    else .unknownCommand
  | _ => .unknownArgument

/-- Reads the arguments from a level on. Gives what was read at that level, and the command with
    what was read after it. -/
def run (l : Level) : Bool → Scan → List Bytes →
    Except ArgumentFault (Scan × Option (Level × Scan))
  | _, s, [] => do .ok (← s.settle, none)
  | true, _, arg :: _ => .error (stray l true arg)
  | false, s, arg :: rest =>
    if l = .top ∧ s.awaits = false ∧ isHelpWord arg = true then .error (helpOn rest)
    else
      match if l = .top && !s.awaits then commandOf? arg else none with
      | some command => do
        let (inner, _) ← run command false empty rest
        .ok (← s.settle, some (command, inner))
      | none =>
        match arg with
        | [0x2D, 0x2D] => run l true s rest
        | 0x2D :: 0x2D :: body => do run l false (← s.long l body) rest
        | 0x2D :: b :: body => do run l false (← s.short l (b :: body)) rest
        | _ => if s.awaits then run l false (s.take arg) rest else .error (stray l false arg)

/-- The path given for an option. -/
def path? (s : Scan) (o : ValueOption) : Option Path := (s.values.lookup o).map Path.mk

/-- The text given for an option. -/
def text? (s : Scan) (o : ValueOption) : Option String := (s.values.lookup o).bind Utf8.toString?

/-- The flags of `keymgr` that were read. -/
def keymgrFlags (s : Scan) : KeymgrFlags where
  generate := s.flags.contains .generate
  deviceId := s.text? .deviceId
  manufacturerId := s.text? .manufacturerId
  exportKey := s.flags.contains .exportKey
  cmakeDump := s.path? .cmakeDump

end Scan

/-- What the arguments of a run say. -/
def Invocation.ofArguments (args : List Bytes) : Except ArgumentFault Invocation := do
  let (outer, inner) ← Scan.run .top false Scan.empty args
  match inner with
  | none => .error (if outer.values.isEmpty then .nothingGiven else .missingCommand)
  | some (level, inner) =>
    .ok {
      projectRoot := (inner.path? .projectRoot).or (outer.path? .projectRoot)
      keysFile := (inner.path? .keysFile).or (outer.path? .keysFile)
      command :=
        match level with
        | .keymgr => .keymgr inner.keymgrFlags
        | _ => .exportCompileCommands }

end DeviceKeys
