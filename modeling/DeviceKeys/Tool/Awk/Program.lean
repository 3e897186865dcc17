import DeviceKeys.Decimal.Calculation
import DeviceKeys.Regex.Syntax
import DeviceKeys.Tool.Basic

/-! # Programs of the pattern language

A program of `awk` is a list of rules, each a pattern with a body, and of functions
(`Program`). `Program.read` reads one in two steps: the text is cut into tokens, and expressions and
statements are read from those.

* A slash starts a regular expression unless an operand stands before it.
* The end of a line ends a statement, except behind a comma, an opening brace and some words.
* A value that is put somewhere is read as far as it goes, so that `a && b = c` is `a && (b = c)`.
-/

namespace DeviceKeys.Tool.Awk

open Shell

/-! ## 1. Programs -/

/-- An operation on two numbers, or the joining of two texts. -/
inductive Operation where
  | add
  | subtract
  | multiply
  | divide
  | remainder
  | power
  | join
  deriving DecidableEq, Repr

/-- A comparison. -/
inductive Comparison where
  | less
  | atMost
  | equal
  | unequal
  | greater
  | atLeast
  deriving DecidableEq, Repr

/-- Where a line is read from by `getline`. -/
inductive Origin where
  | main
  | file
  | command
  deriving DecidableEq, Repr

/-- An expression. -/
inductive Expr where
  | number (q : Quantity)
  | text (s : Chars)
  | regex (s : Chars)
  | name (n : String)
  | element (n : String) (indices : List Expr)
  | field (e : Expr)
  | assign (op : Option Operation) (target value : Expr)
  | choose (c a b : Expr)
  | either (a b : Expr)
  | both (a b : Expr)
  | isIn (indices : List Expr) (n : String)
  | fits (wanted : Bool) (e pattern : Expr)
  | compare (c : Comparison) (a b : Expr)
  | operate (op : Operation) (a b : Expr)
  | negate (e : Expr)
  | plus (e : Expr)
  | not (e : Expr)
  | step (first : Bool) (amount : Int) (target : Expr)
  | call (n : String) (args : List Expr)
  | builtin (n : String) (args : List Expr)
  | getline (origin : Origin) (source : Option Expr) (target : Option Expr)
  | list (es : List Expr)

instance : Inhabited Expr := ⟨.list []⟩

/-- Where something is printed. -/
inductive Output where
  | main
  | file (e : Expr)
  | append (e : Expr)
  | command (e : Expr)

/-- A statement. -/
inductive Statement where
  | expr (e : Expr)
  | print (es : List Expr) (out : Output)
  | format (es : List Expr) (out : Output)
  | branch (c : Expr) (yes : Statement) (no : Option Statement)
  | loop (c : Expr) (body : Statement)
  | loopAfter (body : Statement) (c : Expr)
  | count (start : Option Statement) (c : Option Expr) (next : Option Statement)
      (body : Statement)
  | each (n array : String) (body : Statement)
  | block (ss : List Statement)
  | next
  | nextFile
  | exit (e : Option Expr)
  | return (e : Option Expr)
  | break
  | continue
  | delete (n : String) (indices : List Expr)

instance : Inhabited Statement := ⟨.block []⟩

/-- When the body of a rule runs. -/
inductive Pattern where
  | start
  | finish
  | always
  | when (e : Expr)
  | between (a b : Expr)

/-- A rule. Without a body it prints the record. -/
structure Rule where
  pattern : Pattern
  body : Option Statement

/-- A function. -/
structure Function where
  parameters : List String
  body : Statement

/-- A program. -/
structure Program where
  rules : List Rule
  functions : List (String × Function)

/-! ## 2. Tokens -/

/-- A token. The name of a function stands right before its opening bracket. -/
inductive Token where
  | number (q : Quantity)
  | text (s : Chars)
  | regex (s : Chars)
  | name (n : String)
  | callee (n : String)
  | word (w : String)
  | sign (s : String)
  | newline
  deriving DecidableEq, Repr

/-- A token with the number of its line. -/
abbrev Placed := Token × Nat

/-- The words of the language. -/
def words : List String :=
  ["BEGIN", "END", "function", "if", "else", "while", "for", "do", "break", "continue", "next",
   "nextfile", "exit", "return", "delete", "in", "getline", "print", "printf"]

/-- The functions of the language. -/
def builtins : List String :=
  ["length", "substr", "index", "split", "sub", "gsub", "match", "sprintf", "sin", "cos", "atan2",
   "exp", "log", "sqrt", "int", "rand", "srand", "tolower", "toupper", "system", "close", "fflush"]

/-- The signs, the longer ones first. -/
def signs : List String :=
  ["&&", "||", "==", "<=", ">=", "!=", "++", "--", "+=", "-=", "*=", "/=", "%=", "^=", ">>", "\x7b",
   "\x7d", "(", ")", "[", "]", ";", ",", "+", "-", "*", "%", "^", "!", ">", "<", "|", "?", ":", "~",
   "$", "="]

/-- An operand can end in the token, so that a slash behind it divides. -/
def Token.endsOperand : Token → Bool
  | .number _ => true
  | .text _ => true
  | .regex _ => true
  | .name _ => true
  | .word w => builtins.contains w
  | .sign s => s = ")" || s = "]" || s = "$" || s = "++" || s = "--"
  | _ => false

/-- The value of a digit in a base. -/
def digit? (base : Nat) (c : Char) : Option Nat :=
  (Quantity.hexDigit? c).bind fun n => if n < base then some n else none

/-- The text with marks of letters and numbers put into characters. An unknown mark stays. -/
def unmarked : Nat → Chars → Chars
  | 0, s => s
  | n + 1, '\\' :: c :: r =>
    let numbered (base most : Nat) (r : Chars) : Option (Char × Chars) :=
      let ds := (r.take most).takeWhile fun c => (digit? base c).isSome
      if ds.isEmpty then none
      else
        let v := ds.foldl (fun v c => v * base + (digit? base c).getD 0) 0
        some (Char.ofNat (v % 256), r.drop ds.length)
    match c with
    | '"' => '"' :: unmarked n r
    | '\\' => '\\' :: unmarked n r
    | 'n' => '\n' :: unmarked n r
    | 't' => '\t' :: unmarked n r
    | 'r' => '\r' :: unmarked n r
    | 'a' => Char.ofNat 7 :: unmarked n r
    | 'b' => Char.ofNat 8 :: unmarked n r
    | 'f' => Char.ofNat 12 :: unmarked n r
    | 'v' => Char.ofNat 11 :: unmarked n r
    | '\n' => unmarked n r
    | 'x' =>
      match numbered 16 2 r with
      | some (m, r) => m :: unmarked n r
      | none => '\\' :: 'x' :: unmarked n r
    | c =>
      match numbered 8 3 (c :: r) with
      | some (m, r) => m :: unmarked n r
      | none => '\\' :: c :: unmarked n r
  | n + 1, c :: r => c :: unmarked n r
  | _, [] => []

/-- Takes the text between quotes, behind the opening one. -/
def quotedPart : Chars → Chars → Option (Chars × Chars)
  | _, [] => none
  | taken, '\\' :: c :: r => quotedPart (c :: '\\' :: taken) r
  | taken, '"' :: r => some (taken.reverse, r)
  | _, '\n' :: _ => none
  | taken, c :: r => quotedPart (c :: taken) r

/-- Takes a regular expression up to its slash. A slash in brackets does not end it. -/
def regexPart : Bool → Chars → Chars → Option (Chars × Chars)
  | _, _, [] => none
  | inside, taken, '\\' :: '/' :: r => regexPart inside ('/' :: taken) r
  | inside, taken, '\\' :: c :: r => regexPart inside (c :: '\\' :: taken) r
  | _, _, '\n' :: _ => none
  | inside, taken, c :: r =>
    if c = '/' && !inside then some (taken.reverse, r)
    else if c = '[' && !inside then
      match r with
      | '^' :: ']' :: r => regexPart true (']' :: '^' :: c :: taken) r
      | ']' :: r => regexPart true (']' :: c :: taken) r
      | r => regexPart true (c :: taken) r
    else if c = ']' then regexPart false (c :: taken) r
    else regexPart inside (c :: taken) r

/-- The character may start a name. -/
def startsName (c : Char) : Bool := c.isAlpha || c = '_'

/-- A message with a line in front. -/
def atLine (line : Nat) (text : String) : String := "line " ++ toString line ++ ": " ++ text

/-- Cuts a text into tokens, a count of them at most. `before` is the token read last. -/
def tokens : Nat → Nat → Token → Chars → Except String (List Placed)
  | 0, _, _, _ => .ok []
  | _, _, _, [] => .ok []
  | n + 1, line, before, c :: r =>
    let put (t : Token) (line : Nat) (r : Chars) : Except String (List Placed) :=
      (tokens n line t r).map ((t, line) :: ·)
    if c = ' ' || c = '\t' || c = '\r' then tokens n line before r
    else if c = '\n' then (tokens n (line + 1) .newline r).map ((.newline, line) :: ·)
    else if c = '#' then tokens n line before (r.dropWhile (· ≠ '\n'))
    else if c = '\\' && r.head? = some '\n' then tokens n (line + 1) before (r.drop 1)
    else if c = '"' then
      match quotedPart [] r with
      | some (s, r) => put (.text (unmarked (s.length + 1) s)) line r
      | none =>
        .error (atLine line ("runaway string constant \"" ++
          String.ofList ((r.takeWhile (· ≠ '\n')).take 10) ++ " ..."))
    else if c.isDigit || (c = '.' && (r.head?).any Char.isDigit) then
      match Quantity.readDecimal? (c :: r) with
      | some (v, d, r) => put (.number (Quantity.rounded (.finite false v d))) line r
      | none => .error (atLine line "syntax error")
    else if startsName c then
      let name := (c :: r).takeWhile fun c => startsName c || c.isDigit
      let rest := (c :: r).drop name.length
      let w := String.ofList name
      if words.contains w || builtins.contains w then put (.word w) line rest
      else if rest.head? = some '(' then put (.callee w) line rest
      else put (.name w) line rest
    else if c = '/' then
      if before.endsOperand then
        if r.head? = some '=' then put (.sign "/=") line (r.drop 1) else put (.sign "/") line r
      else
        match regexPart false [] r with
        | some (s, r) => put (.regex s) line r
        | none =>
          .error (atLine line ("runaway regular expression /" ++
            String.ofList ((r.takeWhile (· ≠ '\n')).take 10) ++ " ..."))
    else
      match signs.find? fun s => s.toList.isPrefixOf (c :: r) with
      | some s => put (.sign s) line ((c :: r).drop s.length)
      | none =>
        if c = '&' then .error (atLine line "syntax error at or near &")
        else .error (toString line ++ ": unexpected character '" ++ String.singleton c ++ "'")

/-- The token as a message shows it. -/
def Token.shown : Token → String
  | .number q => String.ofList (Quantity.general 6 false q.toInt.natAbs 1)
  | .text s => "\"" ++ String.ofList s ++ "\""
  | .regex s => "/" ++ String.ofList s ++ "/"
  | .name n => n
  | .callee n => n
  | .word w => w
  | .sign s => s
  | .newline => "end of line"

/-! ## 3. Reading expressions -/

/-- What reads from tokens and may fail with a message. -/
abbrev Reader := StateT (List Placed) (Except String)

/-- Fails at the next token. -/
def wrong {α : Type} : Reader α := do
  match ← get with
  | (t, line) :: _ => throw (atLine line ("syntax error at or near " ++ t.shown))
  | [] => throw (atLine 1 "syntax error at or near end of line")

/-- The next token. -/
def next? : Reader (Option Token) := return (← get).head?.map (·.1)

/-- Drops the next token. -/
def skip : Reader Unit := modify (List.drop 1)

/-- The next token is a sign. -/
def isSign (s : String) : Reader Bool := return (← next?) = some (.sign s)

/-- The next token is a word. -/
def isWord (w : String) : Reader Bool := return (← next?) = some (.word w)

/-- Takes a sign if it comes next. -/
def takesSign (s : String) : Reader Bool := do
  if ← isSign s then
    skip
    return true
  else return false

/-- Takes a word if it comes next. -/
def takesWord (w : String) : Reader Bool := do
  if ← isWord w then
    skip
    return true
  else return false

/-- Takes a sign that must come next. -/
def needs (s : String) : Reader Unit := do
  if !(← takesSign s) then
    match ← get with
    | (t, line) :: _ =>
      if s = ")" then throw (atLine line ("missing ) near " ++ t.shown)) else wrong
    | [] => wrong

/-- Takes the ends of lines that come next. -/
def skipLines : Reader Unit := modify fun ts => ts.dropWhile fun t => t.1 = .newline

/-- What an expression may not hold: a sign that redirects output, or the word that asks for an
    element. -/
structure Limits where
  redirects : Bool
  inWord : Bool

/-- Nothing is left out. -/
def free : Limits := ⟨false, false⟩

/-- The expression can be given a value. -/
def Expr.isTarget : Expr → Bool
  | .name _ => true
  | .element _ _ => true
  | .field _ => true
  | _ => false

/-- The operation of a sign that gives a value; none is in it for a plain one. -/
def assignment? (s : String) : Option (Option Operation) :=
  match s with
  | "=" => some none
  | "+=" => some (some .add)
  | "-=" => some (some .subtract)
  | "*=" => some (some .multiply)
  | "/=" => some (some .divide)
  | "%=" => some (some .remainder)
  | "^=" => some (some .power)
  | _ => none

/-- The comparison of a sign. -/
def comparison? (s : String) : Option Comparison :=
  match s with
  | "<" => some .less
  | "<=" => some .atMost
  | "==" => some .equal
  | "!=" => some .unequal
  | ">" => some .greater
  | ">=" => some .atLeast
  | _ => none

/-- An operand can start with the token that comes next, so that it is joined to the one before. -/
def startsOperand (t : Token) : Bool :=
  match t with
  | .number _ => true
  | .text _ => true
  | .regex _ => true
  | .name _ => true
  | .callee _ => true
  | .word w => builtins.contains w
  | .sign s => s = "$" || s = "!" || s = "(" || s = "-" || s = "+" || s = "++" || s = "--"
  | .newline => false

/-- The operator at a level of binding that the token is. The levels are: one of two, both, elements,
    matches, comparisons and lines, joining, sums, products. -/
def operator? (level : Nat) (l : Limits) (t : Token) : Option (Expr → Expr → Expr) :=
  match level, t with
  | 0, .sign "||" => some .either
  | 1, .sign "&&" => some .both
  | 3, .sign "~" => some (.fits true)
  | 4, .sign s =>
    if s = ">" && l.redirects then none else (comparison? s).map .compare
  | 6, .sign "+" => some (.operate .add)
  | 6, .sign "-" => some (.operate .subtract)
  | 7, .sign "*" => some (.operate .multiply)
  | 7, .sign "/" => some (.operate .divide)
  | 7, .sign "%" => some (.operate .remainder)
  | _, _ => none

/-- The next two tokens are the signs of a match that is not wanted: the mark of negation and the
    sign of a match. -/
def isUnmatched : Reader Bool := do
  match ← get with
  | (.sign "!", _) :: (.sign "~", _) :: _ => return true
  | _ => return false

mutual

/-- Reads an expression. -/
def expr (l : Limits) : Nat → Reader Expr
  | 0 => wrong
  | n + 1 => do
    let c ← binary l 0 n
    if ← takesSign "?" then
      skipLines
      let a ← expr l n
      skipLines
      needs ":"
      skipLines
      return .choose c a (← expr l n)
    else return c

/-- Reads operands of a level and what joins them. -/
def binary (l : Limits) (level : Nat) : Nat → Reader Expr
  | 0 => wrong
  | n + 1 => do
    if 7 < level then unary l n
    else binaryRest l level (← binary l (level + 1) n) n

/-- Reads what follows an operand at a level. -/
def binaryRest (l : Limits) (level : Nat) (a : Expr) : Nat → Reader Expr
  | 0 => wrong
  | n + 1 => do
    match ← next? with
    | none => return a
    | some t =>
      if level = 2 && t = .word "in" && !l.inWord then
        skip
        match ← next? with
        | some (.name array) => do
          skip
          let indices := match a with
            | .list es => es
            | e => [e]
          binaryRest l level (.isIn indices array) n
        | _ => wrong
      else if level = 3 && (← isUnmatched) then
        skip
        skip
        let b ← binary l (level + 1) n
        binaryRest l level (.fits false a b) n
      else if level = 4 && t = .sign "|" && !l.redirects then
        skip
        lineOfCommand l level a n
      else if level = 4 && t = .sign "|" && (← commandFeeds) then
        skip
        lineOfCommand l level a n
      else if level = 5 then
        let joins := startsOperand t && t ≠ .sign "-" && t ≠ .sign "+" && t ≠ .sign "!"
        if joins then
          let b ← binary l (level + 1) n
          binaryRest l level (.operate .join a b) n
        else return a
      else
        match operator? level l t with
        | none => return a
        | some make => do
          skip
          if level ≤ 1 then skipLines
          let b ← binary l (level + 1) n
          if level = 4 then
            if (← next?).any fun t => (operator? 4 l t).isSome then wrong
            else binaryRest l level (make a b) n
          else binaryRest l level (make a b) n

/-- Reads what takes a line from a command. -/
def lineOfCommand (l : Limits) (level : Nat) (a : Expr) : Nat → Reader Expr
  | 0 => wrong
  | n + 1 => do
    if ← takesWord "getline" then
      let target ← optionalTarget l n
      binaryRest l level (.getline .command (some a) target) n
    else wrong

/-- The tokens that come next take a line from a command. -/
def commandFeeds : Reader Bool := do
  match ← get with
  | _ :: (.word "getline", _) :: _ => return true
  | _ => return false

/-- Reads an operand with signs in front. -/
def unary (l : Limits) : Nat → Reader Expr
  | 0 => wrong
  | n + 1 => do
    if ← takesSign "!" then return .not (← unary l n)
    else if ← takesSign "-" then return .negate (← unary l n)
    else if ← takesSign "+" then return .plus (← unary l n)
    else power l n

/-- Reads a power. -/
def power (l : Limits) : Nat → Reader Expr
  | 0 => wrong
  | n + 1 => do
    let a ← stepped l n
    if ← takesSign "^" then return .operate .power a (← exponent l n)
    else
      match ← next? with
      | some (.sign s) =>
        match assignment? s with
        | some op =>
          if a.isTarget then
            skip
            skipLines
            return .assign op a (← expr l n)
          else return a
        | none => return a
      | _ => return a

/-- Reads an exponent, which may have a sign. -/
def exponent (l : Limits) : Nat → Reader Expr
  | 0 => wrong
  | n + 1 => do
    if ← takesSign "-" then return .negate (← exponent l n)
    else if ← takesSign "+" then return .plus (← exponent l n)
    else if ← takesSign "!" then return .not (← exponent l n)
    else power l n

/-- Reads an operand that may be counted up or down. -/
def stepped (l : Limits) : Nat → Reader Expr
  | 0 => wrong
  | n + 1 => do
    if ← takesSign "++" then return .step true 1 (← stepped l n)
    else if ← takesSign "--" then return .step true (-1) (← stepped l n)
    else
      let a ← primary l n
      if a.isTarget then
        if ← takesSign "++" then return .step false 1 a
        else if ← takesSign "--" then return .step false (-1) a
        else return a
      else return a

/-- Reads what can be given a value if it comes next. -/
def optionalTarget (l : Limits) : Nat → Reader (Option Expr)
  | 0 => return none
  | n + 1 => do
    match ← next? with
    | some (.name _) => return some (← primary l n)
    | some (.sign "$") => return some (← primary l n)
    | _ => return none

/-- Reads expressions between commas. -/
def list (l : Limits) : Nat → Reader (List Expr)
  | 0 => wrong
  | n + 1 => do
    let e ← expr l n
    if ← takesSign "," then
      skipLines
      return e :: (← list l n)
    else return [e]

/-- Reads the arguments of a call behind the opening bracket. -/
def arguments : Nat → Reader (List Expr)
  | 0 => wrong
  | n + 1 => do
    skipLines
    if ← takesSign ")" then return []
    else
      let es ← list free n
      skipLines
      needs ")"
      return es

/-- Reads a simple operand. -/
def primary (l : Limits) : Nat → Reader Expr
  | 0 => wrong
  | n + 1 => do
    match ← next? with
    | some (.number q) => do
      skip
      return .number q
    | some (.text s) => do
      skip
      return .text s
    | some (.regex s) => do
      skip
      return .regex s
    | some (.name v) => do
      skip
      if ← takesSign "[" then
        let es ← list free n
        needs "]"
        return .element v es
      else return .name v
    | some (.callee v) => do
      skip
      needs "("
      return .call v (← arguments n)
    | some (.sign "$") => do
      skip
      if ← takesSign "-" then return .field (.negate (← primary l n))
      else if ← takesSign "++" then return .field (.step true 1 (← primary l n))
      else if ← takesSign "--" then return .field (.step true (-1) (← primary l n))
      else return .field (← primary l n)
    | some (.sign "(") => do
      skip
      skipLines
      let es ← list free n
      skipLines
      needs ")"
      return .list es
    | some (.word "getline") => do
      skip
      let target ← optionalTarget l n
      if ← takesSign "<" then return .getline .file (some (← stepped l n)) target
      else return .getline .main none target
    | some (.word w) =>
      if builtins.contains w then do
        skip
        if ← takesSign "(" then return .builtin w (← arguments n)
        else if w = "length" then return .builtin w []
        else wrong
      else wrong
    | _ => wrong

end

/-! ## 4. Reading statements -/

/-- Ends a statement. -/
def ended : Reader Unit := do
  match ← next? with
  | some (.sign ";") => do
    skip
    skipLines
  | some .newline => skipLines
  | some (.sign "\x7d") => return
  | none => return
  | _ => wrong

/-- The statement that comes next is at its end. -/
def atEnd : Reader Bool := do
  match ← next? with
  | none => return true
  | some .newline => return true
  | some (.sign s) => return s = ";" || s = "\x7d"
  | _ => return false

/-- Reads where something is printed. -/
def output (n : Nat) : Reader Output := do
  let place : Reader Expr := binary ⟨true, false⟩ 5 n
  if ← takesSign ">" then return .file (← place)
  else if ← takesSign ">>" then return .append (← place)
  else if ← takesSign "|" then return .command (← place)
  else return .main

/-- Reads what is printed, with where. -/
def printed (n : Nat) : Reader (List Expr × Output) := do
  let atOutput : Bool :=
    match ← next? with
    | some (.sign s) => s = ">" || s = ">>" || s = "|"
    | _ => false
  if atOutput || (← atEnd) then return ([], ← output n)
  else
    let es ← list ⟨true, false⟩ n
    let es := match es with
      | [.list es] => es
      | es => es
    return (es, ← output n)

/-- Reads a statement without a body. -/
def simple (n : Nat) : Reader Statement := do
  match ← next? with
  | some (.word "print") => do
    skip
    let (es, out) ← printed n
    return .print es out
  | some (.word "printf") => do
    skip
    let (es, out) ← printed n
    if es.isEmpty then wrong
    return .format es out
  | some (.word "delete") => do
    skip
    match ← next? with
    | some (.name v) => do
      skip
      if ← takesSign "[" then
        let es ← list free n
        needs "]"
        return .delete v es
      else return .delete v []
    | _ => wrong
  | _ => return .expr (← expr free n)

/-- The tokens that come next go through the elements of an array. -/
def goesThrough : Reader (Option (String × String)) := do
  match ← get with
  | (.name v, _) :: (.word "in", _) :: (.name a, _) :: (.sign ")", _) :: _ => return some (v, a)
  | (.sign "(", _) :: (.name v, _) :: (.word "in", _) :: (.name a, _) :: (.sign ")", _) ::
      (.sign ")", _) :: _ => return some (v, a)
  | _ => return none

mutual

/-- Reads a statement. -/
def statement : Nat → Reader Statement
  | 0 => wrong
  | n + 1 => do
    let condition : Reader Expr := do
      needs "("
      skipLines
      let c ← expr free n
      skipLines
      needs ")"
      return c
    let optional : Reader (Option Expr) := do
      if ← atEnd then
        ended
        return none
      else
        let e ← expr free n
        ended
        return some e
    match ← next? with
    | some (.sign "\x7b") => block n
    | some (.sign ";") => do
      skip
      skipLines
      return .block []
    | some (.word "if") => do
      skip
      let c ← condition
      skipLines
      let yes ← statement n
      skipLines
      let others ← get
      if ← takesSign ";" then skipLines
      if ← takesWord "else" then
        skipLines
        return .branch c yes (some (← statement n))
      else
        set others
        return .branch c yes none
    | some (.word "while") => do
      skip
      let c ← condition
      if ← takesSign ";" then
        skipLines
        return .loop c (.block [])
      else
        skipLines
        return .loop c (← statement n)
    | some (.word "do") => do
      skip
      skipLines
      let body ← statement n
      skipLines
      if ← takesWord "while" then
        let c ← condition
        ended
        return .loopAfter body c
      else wrong
    | some (.word "for") => do
      skip
      needs "("
      match ← goesThrough with
      | some (v, a) => do
        let brackets ← takesSign "("
        skip
        skip
        skip
        needs ")"
        if brackets then needs ")"
        skipLines
        return .each v a (← statement n)
      | none => do
        let start ← if ← isSign ";" then pure none else some <$> simple n
        needs ";"
        skipLines
        let c ← if ← isSign ";" then pure none else some <$> expr free n
        needs ";"
        skipLines
        let next ← if ← isSign ")" then pure none else some <$> simple n
        needs ")"
        if ← takesSign ";" then
          skipLines
          return .count start c next (.block [])
        else
          skipLines
          return .count start c next (← statement n)
    | some (.word "next") => do
      skip
      ended
      return .next
    | some (.word "nextfile") => do
      skip
      ended
      return .nextFile
    | some (.word "break") => do
      skip
      ended
      return .break
    | some (.word "continue") => do
      skip
      ended
      return .continue
    | some (.word "exit") => do
      skip
      return .exit (← optional)
    | some (.word "return") => do
      skip
      return .return (← optional)
    | _ => do
      let s ← simple n
      ended
      return s

/-- Reads a block with its braces. -/
def block : Nat → Reader Statement
  | 0 => wrong
  | n + 1 => do
    needs "\x7b"
    skipLines
    return .block (← statements n)

/-- Reads statements up to a closing brace. -/
def statements : Nat → Reader (List Statement)
  | 0 => wrong
  | n + 1 => do
    skipLines
    match ← next? with
    | none => throw "missing"
    | some (.sign "\x7d") => do
      skip
      return []
    | _ => do
      let s ← statement n
      return s :: (← statements n)

end

/-! ## 5. Reading programs -/

/-- Reads the names of parameters up to the closing bracket. -/
def parameters : Nat → Reader (List String)
  | 0 => wrong
  | n + 1 => do
    skipLines
    if ← takesSign ")" then return []
    else
      match ← next? with
      | some (.name v) => do
        skip
        let _ ← takesSign ","
        return v :: (← parameters n)
      | _ => wrong

/-- Reads rules and functions, a count of them at most. `fuel` bounds the depth of each. -/
def items (fuel : Nat) : Nat → Reader Program
  | 0 => return ⟨[], []⟩
  | n + 1 => do
    modify fun ts => ts.dropWhile fun t => t.1 = .newline || t.1 = .sign ";"
    let rule (p : Pattern) (body : Option Statement) : Reader Program := do
      let more ← items fuel n
      return { more with rules := ⟨p, body⟩ :: more.rules }
    match ← next? with
    | none => return ⟨[], []⟩
    | some (.word "function") => do
      skip
      match ← next? with
      | some (.callee name) | some (.name name) => do
        skip
        needs "("
        let ps ← parameters fuel
        skipLines
        let body ← block fuel
        let more ← items fuel n
        return { more with functions := (name, ⟨ps, body⟩) :: more.functions }
      | _ => wrong
    | some (.word "BEGIN") => do
      skip
      skipLines
      rule .start (some (← block fuel))
    | some (.word "END") => do
      skip
      skipLines
      rule .finish (some (← block fuel))
    | some (.sign "\x7b") => rule .always (some (← block fuel))
    | some (.sign "\x7d") =>
      match ← get with
      | (_, line) :: _ => throw (atLine line "extra '\x7d'")
      | [] => wrong
    | _ => do
      let a ← expr free fuel
      let p ←
        if ← takesSign "," then
          skipLines
          pure (Pattern.between a (← expr free fuel))
        else pure (.when a)
      if ← isSign "\x7b" then rule p (some (← block fuel)) else rule p none

/-- Reads a program. -/
def read (text : Chars) : Except String Program := do
  let ts ← tokens (text.length + 1) 1 .newline text
  let fuel := 40 * (ts.length + 10)
  match (items fuel (ts.length + 1)).run ts with
  | .ok (p, _) => return p
  | .error e =>
    if e = "missing" then
      let last := (ts.getLast?.map (·.2)).getD 1
      throw (atLine (last + 1) "missing \x7d near end of file")
    else throw e

end DeviceKeys.Tool.Awk
