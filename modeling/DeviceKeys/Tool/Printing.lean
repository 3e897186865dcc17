import DeviceKeys.Shell.Builtin.Place
import DeviceKeys.Shell.Builtin.Printing
import DeviceKeys.Shell.Builtin.Test
import DeviceKeys.Tool.Basic

/-! # Programs that print their arguments

`echo`, `printf`, `yes`, `seq`, `basename`, `dirname`, `pwd`, and programs that tell something by
their status alone.
-/

namespace DeviceKeys.Tool

open Shell Act

/-! ## 1. Status alone -/

/-- Does nothing. -/
def succeed : Tool := fun _ _ => return 0

/-- Does nothing, and fails. -/
def fail : Tool := fun _ _ => return 1

/-- Runs a command of the shell as a program. -/
def asProgram (b : Builtin) : Tool := fun ev args => do
  change fun p => { p with label := none }
  b ev args

/-- Tells by its status whether a condition holds. -/
def test : Tool := asProgram Builtin.test

/-- Tells by its status whether a condition in brackets holds. -/
def bracket : Tool := asProgram Builtin.bracket

/-- Prints by a format. -/
def printf : Tool := asProgram Builtin.printf

/-- Prints the working directory. -/
def pwd : Tool := fun _ _ => do
  put (lineOf (ofBytes (FileSystem.pathTo (← process).dir).bytes))
  return 0

/-! ## 2. Texts -/

/-- The character that up to so many digits of a base in front name, and what stands behind them. -/
def codeOf (base count : Nat) (s : Chars) : Option (Char × Chars) :=
  let ds := (s.take count).takeWhile fun c => (Arithmetic.digit? base c).isSome
  if ds.isEmpty then none
  else some (Char.ofNat ((Arithmetic.digits base 0 ds).1 % 256), s.drop ds.length)

/-- The text of an argument with its marks replaced, and whether output ends after it. -/
def unescaped : Nat → Chars → Chars × Bool
  | 0, s => (s, false)
  | _, [] => ([], false)
  | n + 1, '\\' :: c :: r =>
    let go (d : Char) (r : Chars) : Chars × Bool :=
      let (text, ended) := unescaped n r
      (d :: text, ended)
    if c = 'c' then ([], true)
    else
      match Escape.letter? c with
      | some d => go d r
      | none =>
        let found :=
          if c = '0' then some ((codeOf 8 3 r).getD (Char.ofNat 0, r))
          else if c = 'x' then codeOf 16 2 r
          else codeOf 8 3 (c :: r)
        match found with
        | some (d, r) => go d r
        | none => go '\\' (c :: r)
  | n + 1, c :: r =>
    let (text, ended) := unescaped n r
    (c :: text, ended)

/-- The options in front of the arguments of `echo`, which stand together or apart. -/
def echoOptions : List Chars → Chars × List Chars
  | ('-' :: c :: r) :: rest =>
    if (c :: r).all fun c => c = 'n' || c = 'e' || c = 'E' then
      let (cs, rest) := echoOptions rest
      (c :: r ++ cs, rest)
    else ([], ('-' :: c :: r) :: rest)
  | args => ([], args)

/-- Prints its arguments. -/
def echo : Tool := fun _ args => do
  let (os, rest) := echoOptions args
  let text := List.intercalate [' '] rest
  let marks := (os.reverse.find? fun c => c ≠ 'n') = some 'e'
  let (text, ended) := if marks then unescaped (text.length + 1) text else (text, false)
  put (if os.contains 'n' || ended then text else lineOf text)
  return 0

/-- Prints a line again and again until nobody reads it. -/
def yes : Tool := fun _ args => do
  let line := lineOf (if args.isEmpty then ['y'] else List.intercalate [' '] args)
  let block := (List.replicate (65536 / line.length + 1) line).flatten
  let rec go : Nat → Act Unit
    | 0 => return
    | n + 1 => do
      put block
      go n
  go 1000
  return 0

/-! ## 3. Paths -/

/-- The text without the slashes at its end. -/
def withoutSlashes (s : Chars) : Chars := (s.reverse.dropWhile (· = '/')).reverse

/-- The last component of a path. -/
def lastComponent (s : Chars) : Chars :=
  let bare := withoutSlashes s
  if bare.isEmpty then s.take 1 else (bare.reverse.takeWhile (· ≠ '/')).reverse

/-- A path without its last component. -/
def holderOf (s : Chars) : Chars :=
  let bare := withoutSlashes s
  let front := (bare.reverse.dropWhile (· ≠ '/')).reverse
  if bare.isEmpty then (if s.isEmpty then ['.'] else ['/'])
  else if front.isEmpty then ['.']
  else
    let holder := withoutSlashes front
    if holder.isEmpty then ['/'] else holder

/-- A text without an ending, unless nothing would be left. -/
def withoutEnding (ending s : Chars) : Chars :=
  if ending ≠ s && ending.isSuffixOf s then s.take (s.length - ending.length) else s

/-- Prints the last components of paths. -/
def basename : Tool := fun _ args => do
  let g ← options (words [('a', "multiple"), ('z', "zero")] ++ valuedWords [('s', "suffix")])
    false 1 args
  let last (c : Char) := if g.has 'z' then Char.ofNat 0 else c
  match g.operands with
  | [] => misuse 1 "missing operand".toList
  | paths =>
    if g.has 'a' || g.has 's' then
      let ending := (g.value? 's').getD []
      put (paths.flatMap fun p => withoutEnding ending (lastComponent p) ++ [last '\n'])
      return 0
    else
      match paths with
      | [p] => do
        put (lastComponent p ++ [last '\n'])
        return 0
      | [p, ending] => do
        put (withoutEnding ending (lastComponent p) ++ [last '\n'])
        return 0
      | _ :: _ :: extra :: _ => misuse 1 ("extra operand ".toList ++ quoted extra)
      | [] => return 0

/-- Prints paths without their last components. -/
def dirname : Tool := fun _ args => do
  let g ← options (words [('z', "zero")]) false 1 args
  match g.operands with
  | [] => misuse 1 "missing operand".toList
  | paths => do
    put (paths.flatMap fun p => holderOf p ++ [if g.has 'z' then Char.ofNat 0 else '\n'])
    return 0

/-! ## 4. Rows of numbers -/

/-- A decimal that was written: its digits with the sign, and how many of them stand behind the
    point. -/
structure Written where
  value : Int
  places : Nat

/-- Reads digits with a point among them, and an exponent behind them. -/
def digitsWritten? (s : Chars) : Option Written :=
  let whole := Quantity.takeDigits s
  let (part, rest) :=
    match s.drop whole.length with
    | '.' :: r => (Quantity.takeDigits r, r.drop (Quantity.takeDigits r).length)
    | r => ([], r)
  let (exponent, rest) := Quantity.readExponent rest
  if (whole.isEmpty && part.isEmpty) || !rest.isEmpty then none
  else
    let n : Int := Quantity.ofDigits (whole ++ part)
    let places := part.length - exponent.toNat + (-exponent).toNat
    some ⟨n * pow10 (exponent.toNat - part.length), places⟩

/-- Reads a decimal, or a whole number in base sixteen. -/
def written? (s : Chars) : Option Written :=
  let unsigned (s : Chars) : Option Written :=
    match s with
    | '0' :: x :: ds =>
      if (x = 'x' || x = 'X') && !ds.isEmpty then
        if ds.all fun d => (Quantity.hexDigit? d).isSome then some ⟨Quantity.ofHexDigits ds, 0⟩
        else none
      else digitsWritten? s
    | s => digitsWritten? s
  match s with
  | '-' :: r => (unsigned r).map fun w => { w with value := -w.value }
  | '+' :: r => unsigned r
  | r => unsigned r

/-- The value on the scale of so many places. -/
def Written.scaled (w : Written) (places : Nat) : Int := w.value * pow10 (places - w.places)

/-- The text of a number on a scale. -/
def scaledText (places : Nat) (v : Int) : Chars :=
  (if v < 0 then ['-'] else []) ++
    Quantity.pointed places false (Quantity.digitsOf (places + 1) v.natAbs)

/-- A text brought to a width by zeros behind its sign. -/
def zeroFilled (width : Nat) (s : Chars) : Chars :=
  let zeros := List.replicate (width - s.length) '0'
  match s with
  | '-' :: r => '-' :: zeros ++ r
  | s => zeros ++ s

/-- The numbers from one to another in steps. -/
def range (first step last : Int) : List Int :=
  let count :=
    if step = 0 then 0
    else if 0 < step then (if last < first then 0 else (last - first) / step + 1)
    else if first < last then 0 else (first - last) / (-step) + 1
  (List.range count.toNat).map fun (i : Nat) => first + step * i

/-- The options in front of the numbers; a number may start with a hyphen. -/
def seqOptions : List Chars → List Chars × List Chars
  | a :: rest =>
    let isNumber :=
      match a with
      | '-' :: c :: _ => c.isDigit || c = '.'
      | _ => false
    if a = ['-', '-'] then ([], rest)
    else if a.head? = some '-' && !isNumber then
      let takesNext := a = "-s".toList || a = "-f".toList || a = "--separator".toList ||
        a = "--format".toList
      match takesNext, rest with
      | true, v :: rest =>
        let (os, rest) := seqOptions rest
        (a :: v :: os, rest)
      | _, rest =>
        let (os, rest) := seqOptions rest
        (a :: os, rest)
    else ([], a :: rest)
  | [] => ([], [])

/-- Prints numbers in a row. -/
def seq : Tool := fun _ args => do
  let (os, numbers) := seqOptions args
  let g ← options (words [('w', "equal-width")] ++
    valuedWords [('s', "separator"), ('f', "format")]) false 1 os
  let parsed ← numbers.mapM fun a => do
    match written? a with
    | some w => return w
    | none => misuse 1 ("invalid floating point argument: ".toList ++ quoted a)
  let one : Written := ⟨1, 0⟩
  let (first, step, last) ←
    match parsed with
    | [] => misuse 1 "missing operand".toList
    | [c] => pure (one, one, c)
    | [a, c] => pure (a, one, c)
    | [a, b, c] => pure (a, b, c)
    | _ => misuse 1 ("extra operand ".toList ++ quoted ((numbers[3]?).getD []))
  if step.value = 0 then
    misuse 1 ("invalid Zero increment value: ".toList ++ quoted ((numbers[1]?).getD []))
  let places := max first.places step.places
  let scale := max places last.places
  let values := range (first.scaled scale) (step.scaled scale) (last.scaled scale)
  let shown (v : Int) : Chars := scaledText places (v / pow10 (scale - places))
  let texts :=
    match (g.value? 'f').bind fun f =>
        let front := f.takeWhile (· ≠ '%')
        (Directive.read? (f.drop (front.length + 1))).map fun (d, rest) => (front, d, rest) with
    | some (front, d, rest) =>
      values.map fun v =>
        front ++ d.quantity (.finite (decide (v < 0)) v.natAbs (pow10 scale)) ++ rest
    | none =>
      let ts := values.map shown
      if g.has 'w' then
        let width := (ts.map List.length).foldl max 0
        ts.map (zeroFilled width)
      else ts
  if !texts.isEmpty then
    put (lineOf (List.intercalate ((g.value? 's').getD ['\n']) texts))
  return 0

end DeviceKeys.Tool
