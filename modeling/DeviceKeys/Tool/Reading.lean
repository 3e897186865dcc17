import DeviceKeys.Tool.Basic

/-! # Programs that show files

`cat`, `head`, `tail`, `wc`, `tac`, `rev`, `nl`, `fold` and `tee`. Each takes files by their paths,
or its input when it is given none.
-/

namespace DeviceKeys.Tool

open Shell Act

/-- The files that operands name: the input when there are none. -/
def filesOf (g : Given) : List Chars := if g.operands.isEmpty then [['-']] else g.operands

/-- The status of a program of which some files could not be read. -/
def statusOfAll (rs : List Bool) : Nat := if rs.all id then 0 else 1

/-! ## 1. Whole files -/

/-- How `cat` shows a character that is not printed as it is. -/
def visible (tabs others : Bool) (c : Char) : Chars :=
  let plain (n : Nat) : Chars :=
    if n < 32 then ['^', Char.ofNat (n + 64)]
    else if n = 127 then ['^', '?']
    else [Char.ofNat n]
  if c = '\n' then [c]
  else if c = '\t' then (if tabs then ['^', 'I'] else [c])
  else if !others then [c]
  else if c.toNat < 128 then plain c.toNat
  else "M-".toList ++ plain (c.toNat - 128)

/-- Numbers lines, all or those that are not empty. -/
def numbered (onlyFull : Bool) : Nat → List Chars → List Chars
  | _, [] => []
  | n, line :: rest =>
    if onlyFull && line = ['\n'] then line :: numbered onlyFull n rest
    else (rightAligned 6 (shown n) ++ '\t' :: line) :: numbered onlyFull (n + 1) rest

/-- Leaves one of several empty lines. -/
def squeezed : Bool → List Chars → List Chars
  | _, [] => []
  | after, line :: rest =>
    if line = ['\n'] then (if after then squeezed true rest else line :: squeezed true rest)
    else line :: squeezed false rest

/-- Prints files one after the other. -/
def cat : Tool := fun _ args => do
  let g ← options (words [('A', "show-all"), ('b', "number-nonblank"), ('e', ""), ('E', "show-ends"),
    ('n', "number"), ('s', "squeeze-blank"), ('t', ""), ('T', "show-tabs"), ('u', ""),
    ('v', "show-nonprinting")]) true 1 args
  let any (s : String) : Bool := s.toList.any g.has
  if any "AbeEnstTv" then
    let texts ← (filesOf g).mapM textOrWarn
    let lines := fullLines (texts.filterMap id).flatten
    let lines := if g.has 's' then squeezed false lines else lines
    let lines :=
      if any "AeEtTv" then
        lines.map fun l => l.flatMap fun c =>
          if c = '\n' && any "AeE" then ['$', '\n'] else visible (any "AtT") (any "Aetv") c
      else lines
    let empty := if any "AeE" then "$\n".toList else ['\n']
    let lines :=
      if g.has 'b' then
        (numbered true 1 (lines.map fun l => if l = empty then ['\n'] else l)).map fun l =>
          if l = ['\n'] then empty else l
      else if g.has 'n' then numbered false 1 lines
      else lines
    put lines.flatten
    return statusOfAll (texts.map (·.isSome))
  else
    let results ← (filesOf g).mapM fun f => do
      match ← textOrWarn f with
      | some text => do
        put text
        return true
      | none => return false
    return statusOfAll results

/-- Prints the lines of files, the last first. -/
def tac : Tool := fun _ args => do
  let g ← options [] true 1 args
  let results ← (filesOf g).mapM fun f => do
    match ← textOf f with
    | .ok text => do
      put (fullLines text).reverse.flatten
      return true
    | .error e => do
      warn ("failed to open ".toList ++ shellQuoted f ++ " for reading: ".toList ++ reason e)
      return false
  return statusOfAll results

/-- Prints the lines of files, each backwards. -/
def rev : Tool := fun _ args => do
  let g ← options [] true 1 args
  let results ← (filesOf g).mapM fun f => do
    match ← textOf f with
    | .ok text => do
      put ((fullLines text).flatMap fun l =>
        (bareLine l).reverse ++ l.drop (bareLine l).length)
      return true
    | .error e => do
      warn ("cannot open ".toList ++ f ++ ": ".toList ++ reason e)
      return false
  return statusOfAll results

/-! ## 2. Parts of files -/

/-- A count with a letter that multiplies it. -/
def count? (s : Chars) : Option Nat :=
  let ds := s.takeWhile Char.isDigit
  (natural? ds).bind fun n =>
    match String.ofList (s.drop ds.length) with
    | "" => some n
    | "b" => some (n * 512)
    | "k" | "K" | "KiB" => some (n * 1024)
    | "kB" | "KB" => some (n * 1000)
    | "m" | "M" | "MiB" => some (n * 1048576)
    | "MB" => some (n * 1000000)
    | _ => none

/-- What part of a text is wanted: from the front or from the end, counted in lines or bytes. -/
structure Portion where
  bytes : Bool
  fromStart : Bool
  exclude : Bool
  count : Nat

/-- The part of a text in front. -/
def headOf (p : Portion) (s : Chars) : Chars :=
  if p.bytes then (if p.exclude then s.take (s.length - p.count) else s.take p.count)
  else
    let lines := fullLines s
    (if p.exclude then lines.take (lines.length - p.count) else lines.take p.count).flatten

/-- The part of a text at its end. -/
def tailOf (p : Portion) (s : Chars) : Chars :=
  if p.bytes then (if p.fromStart then s.drop (p.count - 1) else s.drop (s.length - p.count))
  else
    let lines := fullLines s
    (if p.fromStart then lines.drop (p.count - 1)
    else lines.drop (lines.length - p.count)).flatten

/-- An old form of a count as an option of its own. -/
def modernCount (args : List Chars) : List Chars :=
  match args with
  | ('-' :: c :: r) :: rest =>
    if c.isDigit then
      let ds := (c :: r).takeWhile Char.isDigit
      let letters := (c :: r).drop ds.length
      let unit := if letters.contains 'c' then "-c".toList else "-n".toList
      let others := letters.filter fun c => c = 'q' || c = 'v'
      (if others.isEmpty then [] else ['-' :: others]) ++ unit :: ds :: rest
    else args
  | args => args

/-- Prints parts of files under their names. What stands behind a part of the input may be left there
    to be read. -/
def shareOut (g : Given) (leaves : Bool) (part : Chars → Chars) : Act Nat := do
  let files := filesOf g
  let titled := (1 < files.length && !g.has 'q') || g.has 'v'
  let rec go : Bool → List Chars → Act (List Bool)
    | _, [] => return []
    | first, f :: rest => do
      let title : Act Unit := do
        let name := if f = ['-'] then "standard input".toList else f
        if titled then
          put ((if first then [] else ['\n']) ++ "==> ".toList ++ name ++ " <==\n".toList)
      match ← textOf f with
      | .ok text => do
        title
        put (part text)
        if leaves && f = ['-'] then giveBack (text.length - (part text).length)
        return true :: (← go false rest)
      | .error .isDirectory => do
        title
        warn ("error reading ".toList ++ shellQuoted f ++ ": Is a directory".toList)
        return false :: (← go false rest)
      | .error e => do
        warn ("cannot open ".toList ++ shellQuoted f ++ " for reading: ".toList ++ reason e)
        return false :: (← go first rest)
  return statusOfAll (← go true files)

/-- The options of `head` and `tail`. -/
def portionFlags : List Flag :=
  valuedWords [('c', "bytes"), ('n', "lines")] ++
    words [('q', "quiet"), ('q', "silent"), ('v', "verbose"), ('z', "zero-terminated"),
      ('f', "follow"), ('F', "")]

/-- The count that an option gives, with its sign. -/
def portionCount (bytes : Bool) (s : Chars) : Act (Option Char × Nat) := do
  let (sign, ds) : Option Char × Chars :=
    match s with
    | '-' :: r => (some '-', r)
    | '+' :: r => (some '+', r)
    | r => (none, r)
  match count? ds with
  | some n => return (sign, n)
  | none =>
    let what := if bytes then "bytes" else "lines"
    refuse 1 ("invalid number of ".toList ++ what.toList ++ ": ".toList ++ quoted s)

/-- Prints the front of files. -/
def head : Tool := fun _ args => do
  let g ← options portionFlags true 1 (modernCount args)
  let bytes := g.last? "cn" = some 'c'
  let (sign, n) ← portionCount bytes (((g.last? "cn").bind g.value?).getD "10".toList)
  shareOut g (sign ≠ some '-') (headOf ⟨bytes, true, sign = some '-', n⟩)

/-- Prints the ends of files. The old form of a count goes with one file. -/
def tail : Tool := fun _ args => do
  match args with
  | ('-' :: c :: _) :: _ :: _ :: _ =>
    if c.isDigit && args[1]? ≠ some "--".toList then
      refuse 1 ("option used in invalid context -- ".toList ++ [c])
  | _ => pure ()
  let args :=
    match args with
    | ('+' :: c :: r) :: rest => if c.isDigit then "-n".toList :: ('+' :: c :: r) :: rest else args
    | args => modernCount args
  let g ← options portionFlags true 1 args
  let bytes := g.last? "cn" = some 'c'
  let (sign, n) ← portionCount bytes (((g.last? "cn").bind g.value?).getD "10".toList)
  shareOut g false (tailOf ⟨bytes, sign = some '+', false, n⟩)

/-! ## 3. Counts -/

/-- The counts of a text. -/
structure Counts where
  lines : Nat
  words : Nat
  bytes : Nat
  longest : Nat

/-- The count of words in a text. -/
def wordCount (s : Chars) : Nat :=
  let rec go : Bool → Nat → Chars → Nat
    | _, n, [] => n
    | inside, n, c :: r =>
      if Arithmetic.isSpace c then go false n r else go true (if inside then n else n + 1) r
  go false 0 s

/-- The counts of a text. -/
def countsOf (s : Chars) : Counts :=
  ⟨s.count '\n', wordCount s, s.length, ((linesOf s).map List.length).foldl max 0⟩

/-- The sum of counts. -/
def Counts.add (a b : Counts) : Counts :=
  ⟨a.lines + b.lines, a.words + b.words, a.bytes + b.bytes, max a.longest b.longest⟩

/-- The size of a regular file that a path or the input leads to. -/
def sizeOf? (f : Chars) : Act (Option Nat) := do
  let fs ← fs
  if f = ['-'] then
    match ← endpoint? 0 with
    | some (_, .file l _ _) =>
      match fs.get? l with
      | some (.file _ data) => return some data.length
      | _ => return none
    | _ => return none
  else
    match fs.stat? (toPath f) with
    | some (.file _ data) => return some data.length
    | _ => return none

/-- The path leads to something. -/
def isThere (f : Chars) : Act Bool := do return f = ['-'] || (← fs).exists? (toPath f)

/-- Counts the lines, words and bytes of files. -/
def wc : Tool := fun _ args => do
  let g ← options (words [('l', "lines"), ('w', "words"), ('c', "bytes"), ('m', "chars"),
    ('L', "max-line-length")]) true 1 args
  let none_ := g.options.isEmpty
  let wants (c : Char) : Bool := g.has c || (none_ && (c = 'l' || c = 'w' || c = 'c'))
  let shownCounts (c : Counts) : List Nat :=
    (if wants 'l' then [c.lines] else []) ++ (if wants 'w' then [c.words] else []) ++
      (if wants 'm' then [c.bytes] else []) ++ (if wants 'c' then [c.bytes] else []) ++
      (if wants 'L' then [c.longest] else [])
  let files := filesOf g
  let single := files.length = 1 && (shownCounts ⟨0, 0, 0, 0⟩).length = 1
  let present ← files.filterM isThere
  let sizes ← present.mapM sizeOf?
  let total := (sizes.filterMap id).foldl (· + ·) 0
  let least := if sizes.any Option.isNone then 7 else 1
  let width := if single then 1 else max least (shown total).length
  let line (c : Counts) (name : Chars) : Chars :=
    let ns := (shownCounts c).map fun n => rightAligned width (shown n)
    lineOf (List.intercalate [' '] ns ++ if name.isEmpty then [] else ' ' :: name)
  let name (f : Chars) : Chars := if g.operands.isEmpty then [] else f
  let results ← files.mapM fun f => do
    match ← textOf f with
    | .ok text => do
      let c := countsOf text
      put (line c (name f))
      return (c, true)
    | .error e => do
      warn (nameShown f ++ ": ".toList ++ reason e)
      if e = .isDirectory then put (line ⟨0, 0, 0, 0⟩ (name f))
      return (⟨0, 0, 0, 0⟩, false)
  if 1 < files.length then
    put (line ((results.map (·.1)).foldl Counts.add ⟨0, 0, 0, 0⟩) "total".toList)
  return statusOfAll (results.map (·.2))

/-! ## 4. Numbered and folded lines -/

/-- Numbers the lines of files. -/
def nl : Tool := fun _ args => do
  let g ← options (valuedWords [('b', "body-numbering"), ('w', "number-width"),
    ('s', "number-separator"), ('v', "starting-line-number"), ('i', "line-increment"),
    ('n', "number-format")]) true 1 args
  let number (c : Char) (usual : Nat) : Nat := ((g.value? c).bind natural?).getD usual
  let all := g.value? 'b' = some ['a']
  let none_ := g.value? 'b' = some ['n']
  let width := number 'w' 6
  let gap := (g.value? 's').getD ['\t']
  let format (n : Nat) : Chars :=
    match (g.value? 'n').map String.ofList with
    | some "ln" => shown n ++ List.replicate (width - (shown n).length) ' '
    | some "rz" => zeroPadded width n
    | _ => rightAligned width (shown n)
  let rec go : Nat → List Chars → List Chars
    | _, [] => []
    | n, line :: rest =>
      if none_ || (!all && line.isEmpty) then
        lineOf (List.replicate (width + gap.length) ' ' ++ line) :: go n rest
      else lineOf (format n ++ gap ++ line) :: go (n + number 'i' 1) rest
  let texts ← (filesOf g).mapM textOrWarn
  put (go (number 'v' 1) (linesOf (texts.filterMap id).flatten)).flatten
  return statusOfAll (texts.map (·.isSome))
where
  /-- A number brought to a width by zeros. -/
  zeroPadded (width n : Nat) : Chars :=
    List.replicate (width - (shown n).length) '0' ++ shown n

/-- Cuts a line into pieces of a width, behind a blank where there is one if `spaces` says so. -/
def folded (width : Nat) (spaces : Bool) : Nat → Chars → List Chars
  | 0, s => [s]
  | n + 1, s =>
    if s.length ≤ width then [s]
    else
      let piece := s.take width
      let cut := (piece.reverse.dropWhile fun c => c ≠ ' ' && c ≠ '\t').reverse
      let piece := if spaces && !cut.isEmpty then cut else piece
      piece :: folded width spaces n (s.drop piece.length)

/-- Folds the lines of files. -/
def fold : Tool := fun _ args => do
  let g ← options (valuedWords [('w', "width")] ++ words [('s', "spaces"), ('b', "bytes")])
    true 1 args
  let width := max 1 (((g.value? 'w').bind natural?).getD 80)
  let texts ← (filesOf g).mapM textOrWarn
  put ((texts.filterMap id).flatten |> fullLines |>.flatMap fun l =>
    let bare := bareLine l
    List.intercalate ['\n'] (folded width (g.has 's') bare.length bare) ++ l.drop bare.length)
  return statusOfAll (texts.map (·.isSome))

/-! ## 5. Copies of the input -/

/-- Prints its input and writes it to files. -/
def tee : Tool := fun _ args => do
  let g ← options (words [('a', "append"), ('i', "ignore-interrupts"), ('p', "")]) true 1 args
  let opening : Opening := if g.has 'a' then .append else .write
  let outputs ← g.operands.mapM fun f => do
    match ← Redirection.openFile f opening with
    | .ok n => return some n
    | .error e => do
      warn (nameShown f ++ ": ".toList ++ reason e)
      return none
  let text ← readAll 0
  outputs.forM fun n => do
    match n with
    | some n =>
      match (← get).files.lookup n with
      | some e => do
        let _ ← writeTo n e text
      | none => return
    | none => return
  put text
  return statusOfAll (outputs.map (·.isSome))

end DeviceKeys.Tool
