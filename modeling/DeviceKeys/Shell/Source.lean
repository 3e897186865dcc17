import DeviceKeys.Shell.Word

/-! # Reading the words of a script

A `Source` is what is left of a script. `Source.token` reads the next piece of it: a word, a sign, a
redirection, the end of a line, or the end.

* A backslash in front of the end of a line joins the lines, except between single quotes.
* Between double quotes a backslash stands for itself unless the next character is one that it
  must protect.
* The commands inside a substitution are read by the reader of whole scripts, which is passed in
  (`Inner`).
* Texts announced by `<<` are read when the line of the announcement ends; a line that is nothing
  but the mark ends them.
-/

namespace DeviceKeys.Shell

/-- Why a script cannot be read, and the line at which that shows. -/
structure Misread where
  line : Nat
  reason : String
  deriving DecidableEq, Repr

/-- A text of which the announcement has been read, but not the text. -/
structure Announced where
  number : Nat
  mark : Chars
  literal : Bool
  indented : Bool

/-- A piece of a script. -/
inductive Token where
  | endOfFile
  | newline
  | sign (s : String)
  | word (w : Word)
  | redirection (stream : Nat) (sign : String)

/-- What is left of a script, with the piece that was read too early, the texts that are announced
    and those that were read, and the names that stand for other words. -/
structure Source where
  rest : Chars
  line : Nat
  back : Option Token
  announced : List Announced
  texts : List (Nat × Word)
  count : Nat
  aliases : List (Chars × Chars)
  expanding : List (Chars × Nat)

/-- Reads from a script, or says why it cannot be read. -/
abbrev Reader := StateT Source (Except Misread)

/-- Reads the commands inside a substitution, up to the sign that closes it. -/
abbrev Inner := Reader Command

namespace Source

/-- The old mark around commands whose output is wanted. -/
def backquote : Char := Char.ofNat 0x60

/-- Fails for a reason, at the line that is being read. -/
def fail {α : Type} (reason : String) : Reader α := do
  throw ⟨(← get).line, reason⟩

/-- The text of a piece in a reason. -/
def shown : Token → String
  | .endOfFile => "end of file"
  | .newline => "newline"
  | .sign s => "\"" ++ s ++ "\""
  | .word _ => "word"
  | .redirection _ _ => "redirection"

/-- Fails at a piece that is out of place. -/
def unexpected {α : Type} (t : Token) : Reader α := fail (shown t ++ " unexpected")

/-- Fails at a piece that stands where a sign must stand. -/
def expecting {α : Type} (t : Token) (sign : String) : Reader α :=
  fail (shown t ++ " unexpected (expecting \"" ++ sign ++ "\")")

/-! ## 1. Characters -/

/-- The next character, joined lines or not. -/
def takeRaw : Reader (Option Char) := do
  let s ← get
  match s.rest with
  | [] => return none
  | c :: r =>
    set { s with rest := r, line := if c = '\n' then s.line + 1 else s.line }
    return some c

/-- The text behind joined ends of lines in front of it, and their count. -/
def joined : Chars → Nat → Chars × Nat
  | '\\' :: '\n' :: r, n => joined r (n + 1)
  | s, n => (s, n)

/-- The next character without taking it; lines that a backslash joins are joined. -/
def peek : Reader (Option Char) := do
  let s ← get
  let (rest, n) := joined s.rest 0
  set { s with rest := rest, line := s.line + n }
  return rest.head?

/-- Takes the next character. -/
def take : Reader (Option Char) := do
  let _ ← peek
  takeRaw

/-- Takes the next character if it is the given one. -/
def takeIf (c : Char) : Reader Bool := do
  if (← peek) = some c then
    let _ ← takeRaw
    return true
  else return false

/-- Takes characters as long as they are of a kind; `n` bounds their count. -/
def takeWhile (kind : Char → Bool) : Nat → Reader Chars
  | 0 => return []
  | n + 1 => do
    match ← peek with
    | some c =>
      if kind c then
        let _ ← takeRaw
        return c :: (← takeWhile kind n)
      else return []
    | none => return []

/-- A bound on the count of characters and pieces that can be taken, one of which may have been given
    back. -/
def bound : Reader Nat := return (← get).rest.length + 3

/-! ## 2. Parts of words -/

/-- Where a part of a word stands: in a bare word, between double quotes, in the braces of a
    substitution (quoted or not), in arithmetic below some open brackets, or in a text that lines
    below a command give. -/
inductive Place where
  | bare
  | quotes
  | braces (quoted : Bool)
  | sum (open_ : Nat)
  | document
  deriving DecidableEq

/-- Text at the place is quoted. -/
def Place.isQuoted : Place → Bool
  | .bare => false
  | .braces quoted => quoted
  | _ => true

/-- The character ends a bare word. -/
def endsWord (c : Char) : Bool :=
  c = ' ' || c = '\t' || c = '\n' || c = ';' || c = '&' || c = '|' || c = '<' || c = '>' ||
    c = '(' || c = ')'

/-- A backslash in quoted text protects the character. -/
def isProtected (place : Place) (c : Char) : Bool :=
  c = '\\' || c = backquote || c = '$' || (c = '"' && place ≠ .document) ||
    (c = '}' && place = .braces true)

/-- The text up to the next single quote, which is taken too. -/
def singleQuoted : Nat → Chars → Reader Chars
  | 0, _ => fail "Unterminated quoted string"
  | n + 1, acc => do
    match ← takeRaw with
    | none => fail "Unterminated quoted string"
    | some c => if c = '\'' then return acc.reverse else singleQuoted n (c :: acc)

/-- The text up to the next old mark, with the backslashes gone that protect a character there. -/
def untilBackquote (quoted : Bool) : Nat → Chars → Reader Chars
  | 0, _ => fail "EOF in backquote substitution"
  | n + 1, acc => do
    match ← take with
    | none => fail "EOF in backquote substitution"
    | some c =>
      if c = backquote then return acc.reverse
      else if c = '\\' then
        match ← takeRaw with
        | none => fail "EOF in backquote substitution"
        | some d =>
          if d = '\\' || d = backquote || d = '$' || (quoted && d = '"') then
            untilBackquote quoted n (d :: acc)
          else untilBackquote quoted n (d :: '\\' :: acc)
      else untilBackquote quoted n (c :: acc)

/-- Reads commands with texts of their own announced. -/
def nested (inner : Inner) : Reader Command := do
  let outer := (← get).announced
  modify fun s => { s with announced := [] }
  let c ← inner
  modify fun s => { s with announced := outer }
  return c

/-- Reads the commands that a text holds. -/
def within (inner : Inner) (text : Chars) : Reader Command := do
  let outer ← get
  set { outer with rest := text, line := 1, back := none }
  let c ← nested inner
  modify fun s => { s with rest := outer.rest, line := outer.line, back := none }
  return c

/-- Reads commands up to a closing bracket, which is taken. -/
def bracketed (inner : Inner) (token : Reader Token) : Reader Command := do
  let c ← nested inner
  match ← token with
  | .sign ")" => return c
  | t => expecting t ")"

/-- Takes the next character; an end of line does not count as one. -/
def takeUncounted : Reader (Option Char) := do
  let _ ← peek
  let line := (← get).line
  let c ← takeRaw
  modify fun s => { s with line := line }
  return c

/-- Reads what a substitution in braces makes of its parameter, up to the operand; none when the
    braces end there. -/
def use : Reader (Option Use) := do
  match ← takeUncounted with
  | some '-' => return some (.orElse false)
  | some '=' => return some (.orAssign false)
  | some '?' => return some (.orFail false)
  | some '+' => return some (.instead false)
  | some '%' => return some (.cutBack (← takeIf '%'))
  | some '#' => return some (.cutFront (← takeIf '#'))
  | some '}' => return none
  | some ':' =>
    match ← takeUncounted with
    | some '-' => return some (.orElse true)
    | some '=' => return some (.orAssign true)
    | some '?' => return some (.orFail true)
    | some '+' => return some (.instead true)
    | some '}' => return some .value
    | _ => return some .unknown
  | _ => return some .unknown

/-- Reads the name of a parameter; a number has one digit unless it stands in braces. -/
def name (braced : Bool) : Reader Chars := do
  let n ← bound
  match ← peek with
  | none => return []
  | some c =>
    if isNameStart c then takeWhile isNameChar n
    else if c.isDigit then takeWhile Char.isDigit (if braced then n else 1)
    else if isSpecial c then do let _ ← takeRaw; return [c]
    else return []

/-- A use whose operand is read as a bare word even between double quotes. -/
def isCut : Use → Bool
  | .cutFront _ => true
  | .cutBack _ => true
  | _ => false

/-- The parts that stand between quotes, which count even when there is no text. -/
def quotedParts (w : Word) : Word := Part.text [] true :: w

/-- Puts parts that were read last first into order. -/
def inOrder (acc : List Part) : Word := acc.foldl (fun w p => Part.cons p w) []

/-- Reads the substitution in braces behind a dollar sign and the opening brace. `operand` reads
    what stands between the use and the closing brace. -/
def braced (quoted : Bool) (operand : Place → Reader Word) : Reader Part := do
  let used (name : Chars) : Reader Part := do
    match ← use with
    | none => return .parameter name .value [] quoted
    | some u => return .parameter name u (← operand (.braces (quoted && !isCut u))) quoted
  match ← peek with
  | some '#' =>
    let _ ← takeRaw
    match ← peek with
    | some '}' =>
      let _ ← takeRaw
      return .parameter ['#'] .value [] quoted
    | _ =>
      let before ← get
      let name ← name true
      if !name.isEmpty && (← takeIf '}') then return .parameter name .length [] quoted
      else
        set before
        used ['#']
  | _ =>
    let name ← name true
    if name.isEmpty then
      if (← peek) ≠ some '\x7d' then let _ ← takeUncounted
      return .parameter [] .unknown (← operand (.braces quoted)) quoted
    else used name

/-- The reason why a substitution without a closing brace cannot be read. -/
def missingBrace : String := "Missing '\x7d'"

/-- Reads the parts of a word up to the end of their place. `token` reads a piece and `inner` the
    commands of a substitution; both are bounded like this reader. A double quote inside quoted
    braces starts text in which a brace does not end the place (`sheltered`). -/
def parts (inner : Inner) (token : Reader Token) :
    Nat → Place → Bool → List Part → Reader Word
  | 0, _, _, _ => fail "Unterminated quoted string"
  | n + 1, place, sheltered, acc => do
    let quoted := place.isQuoted
    let go (p : Part) : Reader Word := parts inner token n place sheltered (p :: acc)
    let goAll (w : Word) : Reader Word := parts inner token n place sheltered (w.reverse ++ acc)
    let literal (c : Char) : Reader Word := do
      let _ ← takeRaw
      go (.text [c] quoted)
    match ← peek with
    | none =>
      match place with
      | .bare => return inOrder acc
      | .document => return inOrder acc
      | .quotes => fail "Unterminated quoted string"
      | .braces _ => fail (if quoted then "Unterminated quoted string" else missingBrace)
      | .sum _ => fail "Missing '))'"
    | some c =>
      if place = .bare && endsWord c then return inOrder acc
      else if c = '\\' then
        let _ ← takeRaw
        match ← takeRaw with
        | none => go (.text ['\\'] true)
        | some d =>
          if quoted && !isProtected place d then go (.text ['\\', d] true)
          else go (.text [d] true)
      else if c = '\'' && !quoted then
        let _ ← takeRaw
        go (.text (← singleQuoted (← bound) []) true)
      else if c = '"' then
        match place with
        | .quotes => do
          let _ ← takeRaw
          return inOrder acc
        | .document => literal c
        | .sum _ => literal c
        | .braces true => do
          let _ ← takeRaw
          parts inner token n place (!sheltered) (.text [] true :: acc)
        | _ => do
          let _ ← takeRaw
          goAll (quotedParts (← parts inner token n .quotes false []))
      else if c = backquote then
        let _ ← takeRaw
        let text ← untilBackquote quoted (← bound) []
        go (.output (← within inner text) quoted)
      else if c = '$' then
        let _ ← takeRaw
        match ← peek with
        | none => go (.text ['$'] quoted)
        | some d =>
          if d = '(' then
            let _ ← takeRaw
            if ← takeIf '(' then
              go (.arithmetic (← parts inner token n (.sum 0) false []) quoted)
            else go (.output (← bracketed inner token) quoted)
          else if d = '\x7b' then
            let _ ← takeRaw
            go (← braced quoted fun place => parts inner token n place false [])
          else
            let name ← name false
            if name.isEmpty then go (.text ['$'] quoted)
            else go (.parameter name .value [] quoted)
      else
        match place with
        | .braces _ =>
          if c = '\x7d' && !sheltered then do
            let _ ← takeRaw
            return inOrder acc
          else literal c
        | .sum depth =>
          if c = '(' then do
            let _ ← takeRaw
            parts inner token n (.sum (depth + 1)) sheltered (.text [c] quoted :: acc)
          else if c = ')' then do
            let _ ← takeRaw
            match depth with
            | d + 1 => parts inner token n (.sum d) sheltered (.text [c] quoted :: acc)
            | 0 =>
              if ← takeIf ')' then return inOrder acc
              else go (.text [c] quoted)
          else literal c
        | _ => literal c

/-! ## 3. Texts from lines below -/

/-- The first line of a text, and what stands below it. -/
def splitLine (s : Chars) : Chars × Chars :=
  let line := s.takeWhile (· ≠ '\n')
  (line, s.drop (line.length + 1))

/-- The line ends in a backslash that joins the next one to it. -/
def isJoining (line : Chars) : Bool := (line.reverse.takeWhile (· = '\\')).length % 2 = 1

/-- Takes the lines up to the mark. `fresh` says that a line may be the mark. -/
def documentLines (a : Announced) : Nat → Bool → Chars → Chars → Chars × Chars
  | 0, _, acc, s => (acc.reverse, s)
  | n + 1, fresh, acc, s =>
    if s.isEmpty then (acc.reverse, [])
    else
      let (line, rest) := splitLine s
      let ended := line.length < s.length
      let line := if a.indented && fresh then line.dropWhile (· = '\t') else line
      if fresh && line = a.mark then (acc.reverse, rest)
      else
        let acc := line.reverse ++ acc
        let acc := if ended then '\n' :: acc else acc
        documentLines a n (a.literal || !isJoining line) acc rest

/-- What is wrong with a text in which something has no end. Braces end with the mark at the latest,
    and commands end with the script. -/
def unendedIn (s : Source) (body rest : Chars) (e : Misread) : Misread :=
  if e.reason.startsWith "Missing" then ⟨e.line + 1, e.reason⟩
  else if e.reason = "Unterminated quoted string" then ⟨e.line + 1, missingBrace⟩
  else if e.line < s.line + body.count '\n' then e
  else ⟨e.line + 1 + rest.count '\n', e.reason⟩

/-- Reads a text that was announced. -/
def document (inner : Inner) (token : Reader Token) (a : Announced) : Reader Unit := do
  let s ← get
  let (body, rest) := documentLines a (s.rest.length + 1) true [] s.rest
  let lines := s.rest.count '\n' - rest.count '\n'
  let word ←
    if a.literal then pure [Part.text body true]
    else do
      set { s with rest := body, back := none }
      try parts inner token (body.length + 2) .document false []
      catch e => throw (unendedIn s body rest e)
  modify fun t =>
    { t with
      rest := rest
      line := s.line + lines
      back := s.back
      texts := (a.number, word) :: t.texts }

/-- Reads all texts that are announced. -/
def documents (inner : Inner) (token : Reader Token) : Reader Unit := do
  let announced := (← get).announced
  modify fun s => { s with announced := [] }
  announced.forM (document inner token)

/-! ## 4. Pieces -/

/-- Passes over blanks and a comment. -/
def skipSpace : Nat → Reader Unit
  | 0 => return
  | n + 1 => do
    match ← peek with
    | some c =>
      if c = ' ' || c = '\t' then
        let _ ← takeRaw
        skipSpace n
      else if c = '#' then
        modify fun s => { s with rest := s.rest.dropWhile (· ≠ '\n') }
      else return
    | none => return

/-- Reads the sign of a redirection. -/
def redirectionSign : Reader String := do
  if ← takeIf '>' then
    if ← takeIf '>' then return ">>"
    else if ← takeIf '|' then return ">|"
    else if ← takeIf '&' then return ">&"
    else return ">"
  else
    let _ ← take
    if ← takeIf '<' then
      if ← takeIf '-' then return "<<-" else return "<<"
    else if ← takeIf '&' then return "<&"
    else if ← takeIf '>' then return "<>"
    else return "<"

/-- The stream that a redirection leads elsewhere unless it names one. -/
def usualStream (sign : String) : Nat := if sign.startsWith ">" then 1 else 0

/-- Reads a word, or a redirection that follows a digit or nothing. -/
def wordToken (inner : Inner) (token : Reader Token) : Reader Token := do
  let w ← parts inner token (← bound) .bare false []
  let next ← peek
  if next = some '<' || next = some '>' then
    match w with
    | [] =>
      let sign ← redirectionSign
      return .redirection (usualStream sign) sign
    | [.text [d] false] =>
      if d.isDigit then return .redirection (d.toNat - '0'.toNat) (← redirectionSign)
      else return .word w
    | _ => return .word w
  else return .word w

/-- Reads the next piece of the script. -/
def fresh (inner : Inner) (token : Reader Token) : Reader Token := do
  skipSpace (← bound)
  let doubled (c : Char) (one two : String) : Reader Token := do
    let _ ← take
    if ← takeIf c then return .sign two else return .sign one
  match ← peek with
  | none => return .endOfFile
  | some '\n' => do let _ ← takeRaw; return .newline
  | some '&' => doubled '&' "&" "&&"
  | some '|' => doubled '|' "|" "||"
  | some ';' => doubled ';' ";" ";;"
  | some '(' => do let _ ← takeRaw; return .sign "("
  | some ')' => do let _ ← takeRaw; return .sign ")"
  | some _ => wordToken inner token

/-- Reads the next piece, or the one that was read too early. -/
def raw (inner : Inner) (token : Reader Token) : Reader Token := do
  let s ← get
  match s.back with
  | some t =>
    set { s with back := none }
    return t
  | none => fresh inner token

/-- Gives a piece back. -/
def giveBack (t : Token) : Reader Unit := modify fun s => { s with back := some t }

/-- The words that are signs where a command starts. -/
def reserved : List String :=
  ["!", "case", "do", "done", "elif", "else", "esac", "fi", "for", "if", "in", "then", "until",
   "while", "\x7b", "\x7d"]

/-- The sign that a word is where a command starts. -/
def reserved? (w : Word) : Option String :=
  w.plain?.bind fun s => reserved.find? fun r => r.toList = s

/-- The text that a name stands for, unless it is being read. -/
def alias? (s : Source) (w : Word) : Option (Chars × Chars) :=
  match w.plain? with
  | none => none
  | some name =>
    let busy := s.expanding.any fun e => e.1 = name && s.rest.length ≥ e.2
    if busy then none else (s.aliases.lookup name).map fun text => (name, text)

/-- What may stand at a place: ends of lines that count for nothing, words that are signs, and
    names that stand for other words. -/
structure Allowed where
  newlines : Bool
  reserved : Bool
  aliases : Bool

/-- Passes over ends of lines, given the piece that was read. -/
def skipNewlines (inner : Inner) (token : Reader Token) : Nat → Token → Reader Token
  | n + 1, .newline => do
    documents inner token
    skipNewlines inner token n (← raw inner token)
  | _, t => return t

/-- Reads the next piece where some things are allowed. -/
def tokenWhere (inner : Inner) (token : Reader Token) : Nat → Allowed → Reader Token
  | 0, _ => return .endOfFile
  | n + 1, allowed => do
    let t ← raw inner token
    let t ← if allowed.newlines then skipNewlines inner token (← bound) t else pure t
    match t with
    | .word w =>
      match if allowed.reserved then reserved? w else none with
      | some sign => return .sign sign
      | none =>
        let s ← get
        match if allowed.aliases then alias? s w else none with
        | none => return t
        | some (name, text) =>
          modify fun s =>
            { s with
              expanding := (name, s.rest.length) :: s.expanding
              rest := text ++ s.rest }
          tokenWhere inner token n allowed
    | t => return t

end Source

end DeviceKeys.Shell
