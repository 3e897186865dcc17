import DeviceKeys.Shell.Arithmetic
import DeviceKeys.Shell.Fields
import DeviceKeys.Shell.Subshell

/-! # Expansion

What the parts of a word stand for.

* `Expansion.glyphs` gives the glyphs of a word: values of parameters, output of commands, values of
  expressions.
* `Expansion.fields` gives the fields of a word of a command, `Expansion.text` the text of a word
  that is not cut into fields.
* An assignment by a substitution takes effect at once.
-/

namespace DeviceKeys.Shell

namespace Expansion

open Act

/-! ## 1. Parameters -/

/-- The letters of all options, in the order in which they are shown. -/
def optionLetters : Chars := "ubaCEVvxsnmiIfe".toList

/-- The value of a parameter that is one text. -/
def value? (p : Process) (name : Chars) : Option Chars :=
  match name with
  | ['?'] => some (Arithmetic.shown p.status)
  | ['$'] => some (Arithmetic.shown p.shell)
  | ['#'] => some (Arithmetic.shown p.arguments.length)
  | ['-'] => some (optionLetters.filter p.options.contains)
  | ['!'] => p.background.map fun n => Arithmetic.shown n
  | ['0'] => some p.name
  | cs =>
    if cs.all Char.isDigit then
      match (Arithmetic.digits 10 0 cs).1 with
      | 0 => some p.name
      | n + 1 => p.arguments[n]?
    else valueOf? p cs

/-- The characters that separate fields. -/
def separators (p : Process) : Chars :=
  match binding? p "IFS".toList with
  | some v => v.value.getD []
  | none => [' ', '\t', '\n']

/-- What stands between arguments that are joined. -/
def joiner (p : Process) : Chars :=
  match binding? p "IFS".toList with
  | some v => (v.value.getD []).take 1
  | none => [' ']

/-- The glyphs of a value. -/
def ofValue (quoted : Bool) (s : Chars) : List Glyph :=
  if quoted then s.map Glyph.quoted else s.map Glyph.value

/-- The glyphs of all arguments. -/
def ofArguments (p : Process) (name : Char) (quoted splitting : Bool) : List Glyph :=
  if name = '*' && (quoted || !splitting) then
    ofValue quoted (List.intercalate (joiner p) p.arguments)
  else if !splitting && !quoted then ofValue quoted (List.intercalate [' '] p.arguments)
  else
    List.intercalate [.border] (p.arguments.map fun a =>
      if quoted && a.isEmpty then [.empty] else ofValue quoted a)

/-- The value of a parameter, all arguments counting as one text. -/
def joinedValue? (p : Process) (name : Chars) : Option Chars :=
  match name with
  | ['@'] => if p.arguments.isEmpty then none else some (List.intercalate [' '] p.arguments)
  | ['*'] => if p.arguments.isEmpty then none else some (List.intercalate (joiner p) p.arguments)
  | name => value? p name

/-- A quoted text that holds nothing but all arguments is no field of its own without any. -/
def withoutMarks : Word → Word
  | .text [] true :: .parameter ['@'] u o true :: w => .parameter ['@'] u o true :: withoutMarks w
  | p :: w => p :: withoutMarks w
  | [] => []

/-! ## 2. Home directories -/

/-- Splits a text at the end of the name behind a tilde. -/
def tildeName (colon : Bool) (s : Chars) : Chars × Chars :=
  let name := s.takeWhile fun c => c ≠ '/' && !(colon && c = ':')
  (name, s.drop name.length)

/-- The directory that a tilde and a name stand for. -/
def home? (p : Process) (name : Chars) : Option Chars :=
  if name.isEmpty then valueOf? p "HOME".toList
  else if name = "root".toList then some "/root".toList
  else none

/-- The parts of a word with the home directory in the place of a tilde in front. -/
def withHome (p : Process) (colon : Bool) (w : Word) : Word :=
  match w with
  | .text ('~' :: s) false :: rest =>
    let (name, behind) := tildeName colon s
    if behind.isEmpty && !rest.isEmpty then w
    else
      match home? p name with
      | some dir => .text dir true :: .text behind false :: rest
      | none => w
  | w => w

/-- A text in parts, each of which starts behind a colon. -/
def afterColons : Chars → List Chars
  | [] => [[]]
  | c :: r =>
    if c = ':' then [c] :: afterColons r
    else
      match afterColons r with
      | [] => [[c]]
      | s :: ss => (c :: s) :: ss

/-- The parts of a value that is assigned, with home directories in the place of tildes in front
    and behind colons. -/
def withHomes (p : Process) (w : Word) : Word :=
  (w.zip (true :: w.map fun _ => false)).flatMap fun (part, first) =>
    match part with
    | .text s false =>
      let pieces := afterColons s
      (pieces.zip (first :: pieces.map fun _ => true)).flatMap fun (piece, starts) =>
        if starts then withHome p true [.text piece false] else [.text piece false]
    | part => [part]

/-! ## 3. Parts -/

/-- The value of a name in an expression. -/
def arithmeticValue (p : Process) (name : Chars) : Except Arithmetic.Fault Int :=
  match valueOf? p name with
  | none => .ok 0
  | some s =>
    if s.all Arithmetic.isSpace then .ok 0
    else
      match Arithmetic.number? none s with
      | some n => .ok n
      | none => .error (.notNumber ("Illegal number: ".toList ++ s))

/-- The text of the value of an expression. -/
def reckon (expression : Chars) : Act Chars := do
  let p ← process
  match Arithmetic.evaluate (arithmeticValue p) expression with
  | .error (.malformed reason) =>
    fault ("arithmetic expression: ".toList ++ reason.toList ++ ": \"".toList ++ expression ++
      ['"'])
  | .error (.notNumber text) => fault text
  | .ok (v, given) =>
    given.reverse.forM fun (name, v) => assign name (Arithmetic.shown v) false
    return Arithmetic.shown v

/-- Refuses a parameter that has no value. -/
def refuse {α : Type} (name : Chars) (text : Chars) : Act α := fault (name ++ ": ".toList ++ text)

/-- What commands print, without the ends of line at its end. -/
def output (ev : Evaluator) (c : Command) : Act Chars := do
  let (text, status) ← capture ev (ev.run c)
  change fun p => { p with outputStatus := status }
  return ((text.filter (· ≠ Char.ofNat 0)).reverse.dropWhile (· = '\n')).reverse

mutual

/-- The glyphs of a part. `operand` says that the part stands in a substitution without quotes, so
    that its text is cut into fields, and `splitting` that fields are wanted at all. -/
def part (ev : Evaluator) : Nat → (operand splitting : Bool) → Part → Act (List Glyph)
  | 0, _, _, _ => return []
  | n + 1, operand, splitting, part => do
    match part with
    | .text s true => return if s.isEmpty then [.empty] else s.map .quoted
    | .text s false => return if operand then s.map .value else s.map .plain
    | .output c quoted => return ofValue quoted (← output ev c)
    | .arithmetic e quoted =>
      return ofValue quoted (← reckon (Glyph.joined [' '] (← glyphs ev n false false e)))
    | .parameter name use w quoted =>
      let p ← process
      let all := name = ['@'] || name = ['*']
      let found := joinedValue? p name
      let counts (colon : Bool) : Bool := found.any fun v => !(colon && v.isEmpty)
      let own : List Glyph :=
        if all then ofArguments p (name.headD '@') quoted splitting
        else ofValue quoted (found.getD [])
      let other : Act (List Glyph) := do
        let w := if quoted then w else withHome p false w
        glyphs ev n (!quoted) splitting w
      match use with
      | .unknown => fault "Bad substitution".toList
      | .value =>
        if found.isNone && !all && isSet p 'u' then refuse name "parameter not set".toList
        else return own
      | .length =>
        if found.isNone && !all && isSet p 'u' then refuse name "parameter not set".toList
        else return ofValue quoted (Arithmetic.shown (found.getD []).length)
      | .orElse colon => if counts colon then return own else other
      | .instead colon => if counts colon then other else return []
      | .orFail colon =>
        if counts colon then return own
        else
          let text := Glyph.joined [' '] (← glyphs ev n (!quoted) false w)
          let usual := "parameter not set" ++ if colon then " or null" else ""
          refuse name (if w.isEmpty then usual.toList else text)
      | .orAssign colon =>
        if counts colon then return own
        else if isName name then
          let text := Glyph.joined [' '] (← glyphs ev n (!quoted) false w)
          assign name text false
          return ofValue quoted text
        else fault (name ++ ": bad variable name".toList)
      | .cutFront longest =>
        let pattern := Pattern.ofMarked (Glyph.marked (← glyphs ev n false false w))
        if found.isNone && !all && isSet p 'u' then refuse name "parameter not set".toList
        else return ofValue quoted (pattern.cutFront longest (found.getD []))
      | .cutBack longest =>
        let pattern := Pattern.ofMarked (Glyph.marked (← glyphs ev n false false w))
        if found.isNone && !all && isSet p 'u' then refuse name "parameter not set".toList
        else return ofValue quoted (pattern.cutBack longest (found.getD []))

/-- The glyphs of a word. -/
def glyphs (ev : Evaluator) : Nat → (operand splitting : Bool) → Word → Act (List Glyph)
  | 0, _, _, _ => return []
  | n + 1, operand, splitting, w => do
    let found ← (withoutMarks w).mapM (part ev n operand splitting)
    return found.flatten

end

/-- The depth to which substitutions may stand inside each other. -/
def depthLimit : Nat := 1000

/-! ## 4. Words -/

/-- The fields of a word. -/
def fields (ev : Evaluator) (w : Word) : Act (List Chars) := do
  let g ← glyphs ev depthLimit false true (withHome (← process) false w)
  let p ← process
  let cut := Fields.split (separators p) g
  if isSet p 'f' then return cut.map Glyph.text
  else
    let fs ← fs
    return cut.flatMap (Fields.paths fs)

/-- The text of a word that is not cut into fields. -/
def text (ev : Evaluator) (w : Word) : Act Chars := do
  return Glyph.joined [' '] (← glyphs ev depthLimit false false (withHome (← process) false w))

/-- The text of a value that is assigned. -/
def assigned (ev : Evaluator) (w : Word) : Act Chars := do
  return Glyph.joined [' '] (← glyphs ev depthLimit false false (withHomes (← process) w))

/-- The pattern that a word spells. -/
def pattern (ev : Evaluator) (w : Word) : Act Pattern := do
  let g ← glyphs ev depthLimit false false (withHome (← process) false w)
  return Pattern.ofMarked (Glyph.marked g)

end Expansion

end DeviceKeys.Shell
