import DeviceKeys.Shell.Source

/-! # Reading the commands of a script

`Script.next` reads one complete line of commands from a `Source`: what stands before the end of a
line that is not inside another command. A script is run line by line, so a fault further down
shows only when that line is reached.

The reader of a list of commands calls itself for the bodies of commands and for substitutions. It
is tied to itself a bounded number of times (`Script.reader`).
-/

namespace DeviceKeys.Shell

namespace Script

open Source

/-- How a list of commands ends: with its line, in front of a sign that no list starts with, or in
    front of such a sign without any command before it. -/
inductive Extent where
  | line
  | body
  | optional
  deriving DecidableEq

/-- The readers of lists and of pieces that commands are read with. -/
structure Readers where
  list : Extent → Reader Command
  token : Allowed → Reader Token

/-- Nothing but the piece itself. -/
def bareToken : Allowed := ⟨false, false, false⟩

/-- A place where a command goes on. -/
def afterCommand : Allowed := ⟨false, true, true⟩

/-- A place where a command starts, perhaps on a line below. -/
def beforeCommand : Allowed := ⟨true, true, true⟩

/-- The signs that end a list of commands. -/
def closing : List String := [")", ";;", "do", "done", "elif", "else", "esac", "fi", "then", "\x7d"]

/-- The piece ends a list of commands. -/
def isClosing : Token → Bool
  | .sign s => closing.contains s
  | .endOfFile => true
  | _ => false

/-- Reads a sign that must stand here. -/
def expect (r : Readers) (allowed : Allowed) (sign : String) : Reader Unit := do
  match ← r.token allowed with
  | .sign s => if s = sign then return else expecting (.sign s) sign
  | t => expecting t sign

/-! ## 1. Redirections -/

/-- Reads what stands behind the sign of a redirection. -/
def redirect (r : Readers) (stream : Nat) (sign : String) : Reader Redirect := do
  match ← r.token bareToken with
  | .word w =>
    if sign = "<<" || sign = "<<-" then
      let s ← get
      let mark := w.flatMap fun p =>
        match p with
        | .text t _ => t
        | _ => []
      let a : Announced := ⟨s.count, mark, w.hasQuotes, sign = "<<-"⟩
      set { s with count := s.count + 1, announced := s.announced ++ [a] }
      return .here stream s.count
    else if sign = "<&" || sign = ">&" then return .join stream w
    else
      let opening : Opening :=
        if sign = ">" then .write
        else if sign = ">>" then .append
        else if sign = ">|" then .clobber
        else if sign = "<>" then .both
        else .read
      return .file stream opening w
  | t => unexpected t

/-- Reads redirections as long as there are any. -/
def redirects (r : Readers) : Nat → Reader (List Redirect)
  | 0 => return []
  | n + 1 => do
    match ← r.token afterCommand with
    | .redirection stream sign =>
      let first ← redirect r stream sign
      return first :: (← redirects r n)
    | t =>
      giveBack t
      return []

/-! ## 2. Simple commands -/

/-- The commands of the shell that cannot be named by a function. -/
def specialNames : List String :=
  [".", ":", "break", "continue", "eval", "exec", "exit", "export", "local", "readonly", "return",
   "set", "shift", "times", "trap", "unset"]

/-- What has been read of a simple command, the last first. -/
structure Draft where
  assignments : List (Chars × Word)
  words : List Word
  redirects : List Redirect

/-- Reads the body of a function behind its name. -/
def definition (r : Readers) (command : Reader Command) (name : Word) : Reader Command := do
  expect r bareToken ")"
  match name.plain? with
  | some s =>
    if isName s && !specialNames.contains (String.ofList s) then
      let t ← r.token beforeCommand
      giveBack t
      return .define (← get).line s (← command)
    else fail "Bad function name"
  | none => fail "Bad function name"

/-- Reads the words of a simple command. -/
def simple (r : Readers) (command : Reader Command) (line : Nat) : Nat → Draft → Reader Command
  | 0, _ => return .nothing
  | n + 1, d => do
    let done : Reader Command :=
      return .simple line d.assignments.reverse d.words.reverse d.redirects.reverse
    match ← r.token { bareToken with aliases := d.words.isEmpty } with
    | .word w =>
      match if d.words.isEmpty then w.assignment? else none with
      | some a => simple r command line n { d with assignments := a :: d.assignments }
      | none => simple r command line n { d with words := w :: d.words }
    | .redirection stream sign =>
      let redirect ← redirect r stream sign
      simple r command line n { d with redirects := redirect :: d.redirects }
    | .sign "(" =>
      match d with
      | ⟨[], [name], []⟩ => definition r command name
      | _ =>
        giveBack (.sign "(")
        done
    | t =>
      giveBack t
      done

/-! ## 3. Commands that hold others -/

/-- Reads what follows the word that starts a choice: a test, and what to do. -/
def choice (r : Readers) : Nat → Reader Command
  | 0 => return .nothing
  | n + 1 => do
    let test ← r.list .body
    expect r afterCommand "then"
    let yes ← r.list .body
    match ← r.token afterCommand with
    | .sign "elif" => return .choice test yes (← choice r n)
    | .sign "else" => return .choice test yes (← r.list .body)
    | t =>
      giveBack t
      return .choice test yes .nothing

/-- Reads words up to the end of a line or a semicolon. -/
def wordsToEnd (r : Readers) : Nat → Reader (List Word)
  | 0 => return []
  | n + 1 => do
    match ← r.token bareToken with
    | .word w => return w :: (← wordsToEnd r n)
    | .newline =>
      giveBack .newline
      return []
    | .sign ";" => return []
    | t => unexpected t

/-- The word that stands for all arguments. -/
def allArguments : Word := [.text [] true, .parameter ['@'] .value [] true]

/-- Reads what follows the word that starts a repetition for each of some values. -/
def each (r : Readers) (line : Nat) : Reader Command := do
  let name ←
    match ← r.token bareToken with
    | .word w =>
      match w.plain? with
      | some s => if isName s then pure s else fail "Bad for loop variable"
      | none => fail "Bad for loop variable"
    | _ => fail "Bad for loop variable"
  let values ←
    match ← r.token beforeCommand with
    | .sign "in" => wordsToEnd r (← bound)
    | .sign ";" => pure [allArguments]
    | t => do
      giveBack t
      pure [allArguments]
  expect r beforeCommand "do"
  return .each line name values (← r.list .body)

/-- Reads the patterns of a clause, of which the first piece was read. What is no word counts as an
    empty one. -/
def patterns (r : Readers) : Nat → Token → Reader (List Word)
  | 0, t => unexpected t
  | n + 1, t => do
    let w :=
      match t with
      | .word w => w
      | _ => []
    match ← r.token bareToken with
    | .sign "|" => return w :: (← patterns r n (← r.token bareToken))
    | .sign ")" => return [w]
    | t => expecting t ")"

/-- Reads the clauses of a selection up to the word that ends it. -/
def clauses (r : Readers) : Nat → Reader (List (List Word × Command))
  | 0 => return []
  | n + 1 => do
    match ← r.token ⟨true, true, false⟩ with
    | .sign "esac" => return []
    | t =>
      let first ←
        match t with
        | .sign "(" => r.token bareToken
        | .sign s => pure (if reserved.contains s then .word [.text s.toList false] else t)
        | t => pure t
      let ps ← patterns r n first
      let body ← r.list .optional
      match ← r.token ⟨true, true, false⟩ with
      | .sign "esac" => return [(ps, body)]
      | .sign ";;" => return (ps, body) :: (← clauses r n)
      | t => expecting t ";;"

/-- Reads a command. -/
def command (r : Readers) : Nat → Reader Command
  | 0 => return .nothing
  | n + 1 => do
    let t ← r.token afterCommand
    let line := (← get).line
    let ended (sign : String) (c : Command) : Reader (Command × List Redirect) := do
      expect r afterCommand sign
      return (c, ← redirects r (← bound))
    let grouped (p : Command × List Redirect) : Command :=
      if p.2.isEmpty then p.1 else .grouped line p.1 p.2
    match t with
    | .sign "if" => return grouped (← ended "fi" (← choice r (← bound)))
    | .sign "while" => do
      let test ← r.list .body
      expect r afterCommand "do"
      return grouped (← ended "done" (.loop false test (← r.list .body)))
    | .sign "until" => do
      let test ← r.list .body
      expect r afterCommand "do"
      return grouped (← ended "done" (.loop true test (← r.list .body)))
    | .sign "for" => return grouped (← ended "done" (← each r line))
    | .sign "case" => do
      let subject ←
        match ← r.token bareToken with
        | .word w => pure w
        | t => fail (shown t ++ " unexpected (expecting word)")
      expect r beforeCommand "in"
      let cs ← clauses r (← bound)
      return grouped (.select line subject cs, ← redirects r (← bound))
    | .sign "(" => do
      let (body, rs) ← ended ")" (← r.list .body)
      return .subshell line body rs
    | .sign "\x7b" => return grouped (← ended "\x7d" (← r.list .body))
    | .word _ => do
      giveBack t
      simple r (command r n) line (← bound) ⟨[], [], []⟩
    | .redirection _ _ => do
      giveBack t
      simple r (command r n) line (← bound) ⟨[], [], []⟩
    | t => unexpected t

/-- Reads the further stages of a pipeline. -/
def stages (r : Readers) : Nat → Reader (List Command)
  | 0 => return []
  | n + 1 => do
    match ← r.token bareToken with
    | .sign "|" =>
      let t ← r.token beforeCommand
      giveBack t
      let c ← command r (← bound)
      return c :: (← stages r n)
    | t =>
      giveBack t
      return []

/-- Reads a pipeline. -/
def pipeline (r : Readers) : Reader Command := do
  let negated ←
    match ← r.token afterCommand with
    | .sign "!" => do
      let t ← r.token afterCommand
      giveBack t
      pure true
    | t => do
      giveBack t
      pure false
  let first ← command r (← bound)
  let rest ← stages r (← bound)
  let c := if rest.isEmpty then first else .pipeline (first :: rest)
  return if negated then .negated c else c

/-- Reads the further pipelines that depend on the ones before. -/
def conditions (r : Readers) : Nat → Command → Reader Command
  | 0, c => return c
  | n + 1, c => do
    let second : Reader Command := do
      let t ← r.token beforeCommand
      giveBack t
      pipeline r
    match ← r.token bareToken with
    | .sign "&&" => conditions r n (.both c (← second))
    | .sign "||" => conditions r n (.either c (← second))
    | t =>
      giveBack t
      return c

/-- Joins commands that run one after the other. -/
def join : Command → Command → Command
  | .nothing, c => c
  | c, d => .sequence c d

/-- Reads commands, given those before them. -/
def commands (r : Readers) (extent : Extent) : Nat → Bool → Command → Reader Command
  | 0, _, before => return before
  | n + 1, optional, before => do
    match ← r.token { beforeCommand with newlines := extent ≠ .line } with
    | .newline =>
      giveBack .newline
      return before
    | .endOfFile =>
      giveBack .endOfFile
      return before
    | t =>
      giveBack t
      if optional && extent ≠ .line && isClosing t then return before
      else
        let c ← conditions r (← bound) (← pipeline r)
        match ← r.token bareToken with
        | .sign "&" => commands r extent n true (join before (.background c))
        | .sign ";" => commands r extent n true (join before c)
        | .newline =>
          if extent = .line then
            giveBack .newline
            return join before c
          else
            giveBack .newline
            commands r extent n true (join before c)
        | .endOfFile =>
          giveBack .endOfFile
          return join before c
        | t =>
          if extent = .line then unexpected t
          else
            giveBack t
            return join before c

/-- The readers, with at most so many lists inside each other. -/
def readers : Nat → Readers
  | 0 => ⟨fun _ => return .nothing, fun _ => return .endOfFile⟩
  | n + 1 =>
    let below := readers n
    let token (allowed : Allowed) : Reader Token := do
      tokenWhere (below.list .optional) (below.token afterCommand) (← bound) allowed
    let own : Readers := ⟨below.list, token⟩
    ⟨fun extent => do commands own extent (← bound) (extent = .optional) .nothing, token⟩

/-- The count of lists that may stand inside each other. -/
def nestingLimit : Nat := 500

/-- The readers of a script. -/
def reader : Readers := readers nestingLimit

/-- Reads a line of commands with the texts that are announced in it; none at the end. -/
def line : Reader (Option Command) := do
  let c ← reader.list .line
  let t ← reader.token bareToken
  documents (reader.list .optional) (reader.token afterCommand)
  match t, c with
  | .endOfFile, .nothing => return none
  | _, c => return some c

/-- Reads the next line of commands. -/
def next (s : Source) : Except Misread (Option Command × Source) := line.run s

end Script

/-- The source of a text that starts at a line. -/
def Source.ofText (text : Chars) (line : Nat) : Source where
  rest := text
  line := line
  back := none
  announced := []
  texts := []
  count := 0
  aliases := []
  expanding := []

end DeviceKeys.Shell
