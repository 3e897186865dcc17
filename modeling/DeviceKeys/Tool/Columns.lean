import DeviceKeys.Shell.Pattern
import DeviceKeys.Tool.Printing
import DeviceKeys.Tool.Reading

/-! # Programs for characters and columns

`cut`, `paste`, `tr`, `expand` and `join` of columns.

* `cut` takes parts of lines by places (`Span`) that count characters or fields.
* `tr` replaces or deletes characters of a set. A set is written as characters, ranges, classes and
  repetitions (`CharacterSet.read`).
-/

namespace DeviceKeys.Tool

open Shell Act

/-! ## 1. Parts of lines -/

/-- Places from one to another; the second may be missing. -/
structure Span where
  first : Nat
  last : Option Nat

/-- Reads a list of spans. -/
def spans? (s : Chars) : Option (List Span) :=
  let parts := (s.map fun c => if c = ' ' then ',' else c).splitOn ','
  parts.mapM fun part =>
    let first := Quantity.takeDigits part
    match part.drop first.length with
    | [] => (natural? first).map fun n => ⟨n, some n⟩
    | '-' :: r =>
      if r.isEmpty then (natural? first).map fun n => ⟨n, none⟩
      else
        (natural? r).bind fun m =>
          if first.isEmpty then some ⟨1, some m⟩ else (natural? first).map fun n => ⟨n, some m⟩
    | _ => none

/-- The place is in one of some spans. -/
def isIn (spans : List Span) (n : Nat) : Bool :=
  spans.any fun s => s.first ≤ n && s.last.all (n ≤ ·)

/-- Spans in order, those put together that share places. -/
def separate (spans : List Span) : List Span :=
  (spans.mergeSort fun a b => decide (a.first ≤ b.first)).foldr (fun s rest =>
    match rest with
    | t :: more =>
      if s.last.all (t.first ≤ ·) then
        ⟨s.first, (s.last.bind fun m => t.last.map (max m ·))⟩ :: more
      else s :: t :: more
    | [] => [s]) []

/-- The parts of a list at places that are wanted. -/
def chosen {α : Type} (wanted : Nat → Bool) (xs : List α) : List α :=
  (xs.zip ((List.range xs.length).map (· + 1))).filterMap fun (x, n) =>
    if wanted n then some x else none

/-- Takes parts of the lines of files. -/
def cut : Tool := fun _ args => do
  let g ← options (valuedWords [('b', "bytes"), ('c', "characters"), ('d', "delimiter"),
    ('f', "fields"), ('o', "output-delimiter")] ++ words [('s', "only-delimited"), ('n', ""),
    ('C', "complement"), ('z', "zero-terminated")]) true 1 args
  let kinds := g.options.filter fun o => "bcf".toList.contains o.1
  let (kind, list) ←
    match kinds with
    | [] => misuse 1 "you must specify a list of bytes, characters, or fields".toList
    | [k] => pure k
    | _ => misuse 1 "only one list may be specified".toList
  let fields := kind = 'f'
  let delimiter ←
    match g.value? 'd' with
    | none => pure '\t'
    | some [c] => pure c
    | some [] => pure (Char.ofNat 0)
    | some _ => misuse 1 "the delimiter must be a single character".toList
  if !fields && g.has 'd' then
    misuse 1 "an input delimiter may be specified only when operating on fields".toList
  if !fields && g.has 's' then
    misuse 1 ("suppressing non-delimited lines makes sense\n" ++
      "\tonly when operating on fields").toList
  let noun := if fields then "field" else "byte/character position"
  let spans ←
    match spans? list with
    | some spans =>
      if spans.any fun s => s.first = 0 || s.last = some 0 then
        misuse 1 (if fields then "fields are numbered from 1".toList
          else "byte/character positions are numbered from 1".toList)
      else if spans.any fun s => s.last.any (· < s.first) then
        misuse 1 "invalid decreasing range".toList
      else pure spans
    | none =>
      if list.any fun c => !(c.isDigit || c = '-' || c = ',' || c = ' ') then
        misuse 1 (("invalid " ++ noun ++ " value ").toList ++ quoted list)
      else misuse 1 ("invalid " ++ noun ++ " range").toList
  let wanted (n : Nat) : Bool := isIn spans n != g.has 'C'
  let between := (g.value? 'o').getD (if fields then [delimiter] else [])
  let line (l : Chars) : Chars :=
    if fields then
      if l.contains delimiter then
        lineOf (List.intercalate between (chosen wanted (l.splitOn delimiter)))
      else if g.has 's' then []
      else lineOf l
    else if g.has 'o' then
      let starts (n : Nat) : Bool :=
        if g.has 'C' then wanted n && !wanted (n - 1)
        else (separate spans).any (·.first = n)
      let parts := (chosen wanted (l.zip (List.range l.length))).map fun (c, i) =>
        if starts (i + 1) then between ++ [c] else [c]
      lineOf (parts.flatten.drop between.length)
    else lineOf (chosen wanted l)
  let results ← (filesOf g).mapM fun f => do
    match ← textOrWarn f with
    | some text => do
      put ((linesOf text).flatMap line)
      return true
    | none => return false
  return statusOfAll results

/-! ## 2. Lines side by side -/

/-- The delimiters that a text names. -/
def delimiters : Chars → List Chars
  | '\\' :: c :: r =>
    (match c with
      | 'n' => ['\n']
      | 't' => ['\t']
      | '0' => []
      | c => [c]) :: delimiters r
  | c :: r => [c] :: delimiters r
  | [] => []

/-- Joins texts with delimiters that are used in turn. -/
def joinInTurn (ds : List Chars) : Nat → List Chars → Chars
  | _, [] => []
  | _, [x] => x
  | n, x :: y :: r => x ++ (ds[n % ds.length]?).getD [] ++ joinInTurn ds (n + 1) (y :: r)

/-- Puts the lines of files side by side, or those of each file. -/
def paste : Tool := fun _ args => do
  let g ← options (valuedWords [('d', "delimiters")] ++
    words [('s', "serial"), ('z', "zero-terminated")]) true 1 args
  let ds := delimiters ((g.value? 'd').getD ['\t'])
  let ds := if ds.isEmpty then [[]] else ds
  let files := filesOf g
  let dashes := files.count ['-']
  let texts ← (files.filter (· ≠ ['-'])).mapM fun f => do
    match ← textOf f with
    | .ok text => return linesOf text
    | .error e => refuse 1 (nameShown f ++ ": ".toList ++ reason e)
  let input ← if dashes = 0 then pure [] else do pure (linesOf (← readAll 0))
  let rec columns : Nat → List Chars → List (List Chars) → List (List Chars)
    | _, [] , _ => []
    | k, f :: fs, ts =>
      if f = ['-'] then
        let own := if g.has 's' then (if k = 0 then input else [])
          else chosen (fun n => (n - 1) % dashes = k) input
        own :: columns (k + 1) fs ts
      else ts.headD [] :: columns k fs (ts.drop 1)
  let all := columns 0 files texts
  if g.has 's' then
    put (all.flatMap fun lines => lineOf (joinInTurn ds 0 lines))
  else
    let count := (all.map List.length).foldl max 0
    put ((List.range count).flatMap fun n =>
      lineOf (joinInTurn ds 0 (all.map fun lines => (lines[n]?).getD [])))
  return 0

/-! ## 3. Sets of characters -/

namespace CharacterSet

/-- A part of a set: characters, a class by its name, or a character that is repeated (as often as
    needed without a count). -/
inductive Piece where
  | chars (cs : Chars)
  | named (name : String)
  | repeated (c : Char) (count : Option Nat)

/-- The characters with the marks behind a backslash replaced; each tells whether it was marked. -/
def marked : Nat → Chars → List (Char × Bool)
  | 0, _ => []
  | n + 1, '\\' :: c :: r =>
    match Escape.letter? c with
    | some d => (if c = 'e' then (c, true) else (d, true)) :: marked n r
    | none =>
      match codeOf 8 3 (c :: r) with
      | some (d, r) => (d, true) :: marked n r
      | none => (c, true) :: marked n r
  | n + 1, c :: r => (c, false) :: marked n r
  | _, [] => []

/-- The characters from one to another. -/
def range (a b : Char) : Chars :=
  (List.range (b.toNat + 1 - a.toNat)).map fun n => Char.ofNat (a.toNat + n)

/-- Reads what stands in brackets. -/
def bracketed? (s : List (Char × Bool)) : Option (Piece × List (Char × Bool)) :=
  match s with
  | ('[', false) :: (':', false) :: r =>
    (Pattern.classNames.find? fun name =>
      ((name ++ ":]").toList.map fun c => (c, false)).isPrefixOf r).map fun name =>
        (.named name, r.drop (name.length + 2))
  | ('[', false) :: ('=', false) :: (c, _) :: ('=', false) :: (']', false) :: r =>
    some (.chars [c], r)
  | ('[', false) :: (c, _) :: ('*', false) :: r =>
    let ds := (r.takeWhile fun p => p.1.isDigit).map (·.1)
    match r.drop ds.length with
    | (']', false) :: rest =>
      let base := if ds.head? = some '0' then 8 else 10
      let count := (Arithmetic.digits base 0 ds).1
      some (.repeated c (if ds.isEmpty || count = 0 then none else some count), rest)
    | _ => none
  | _ => none

/-- Reads the pieces of a set, or tells what is wrong with it. -/
def pieces : Nat → List (Char × Bool) → Except Chars (List Piece)
  | 0, _ => .ok []
  | _, [] => .ok []
  | n + 1, s =>
    match bracketed? s with
    | some (p, r) => (pieces n r).map (p :: ·)
    | none =>
      match s with
      | (a, _) :: ('-', false) :: (b, _) :: r =>
        if b < a then
          .error ("range-endpoints of '".toList ++ [a, '-', b] ++
            "' are in reverse collating sequence order".toList)
        else (pieces n r).map (.chars (range a b) :: ·)
      | (a, _) :: r => (pieces n r).map (.chars [a] :: ·)
      | [] => .ok []

/-- The characters of a class, in order. -/
def classChars (name : String) : Chars :=
  (range (Char.ofNat 0) (Char.ofNat 255)).filter (Pattern.isInClass name)

/-- The characters of a set; a character repeated as often as needed fills up to a length. -/
def expand (length : Nat) (ps : List Piece) : Chars :=
  let known : Nat := (ps.map fun p =>
    match p with
    | .chars cs => cs.length
    | .named name => (classChars name).length
    | .repeated _ count => count.getD 0).foldl (· + ·) 0
  ps.flatMap fun p =>
    match p with
    | .chars cs => cs
    | .named name => classChars name
    | .repeated c count => List.replicate (count.getD (length - known)) c

/-- Reads a set. -/
def read (s : Chars) : Except Chars (List Piece) :=
  let m := marked (s.length + 1) s
  pieces (m.length + 1) m

end CharacterSet

/-- Leaves one of several equal neighbours among characters of a set. -/
def squeeze (isIn : Char → Bool) (s : Chars) : Chars :=
  let rec go : Option Char → Chars → Chars → Chars
    | _, acc, [] => acc.reverse
    | last, acc, c :: r =>
      if last = some c && isIn c then go last acc r else go (some c) (c :: acc) r
  go none [] s

/-- Replaces or deletes characters of the input. -/
def tr : Tool := fun _ args => do
  let g ← options (words [('c', "complement"), ('C', ""), ('d', "delete"), ('s', "squeeze-repeats"),
    ('t', "truncate-set1")]) false 1 args
  let read (s : Chars) : Act (List CharacterSet.Piece) := do
    match CharacterSet.read s with
    | .ok ps => return ps
    | .error text => refuse 1 text
  let deletes := g.has 'd'
  let squeezes := g.has 's'
  let complement := g.has 'c' || g.has 'C'
  let lastOnly : Chars := "Two strings must be given when translating.\n".toList
  let both : Chars := "Two strings must be given when both deleting and squeezing repeats.\n".toList
  let missing (after : Chars) (note : Chars) : Act Nat := do
    warn ("missing operand".toList ++ after)
    err note
    err ("Try '".toList ++ (← ownName) ++ " --help' for more information.\n".toList)
    return 1
  match g.operands with
  | [] => misuse 1 "missing operand".toList
  | one :: rest =>
    match rest with
    | [] =>
      if deletes && squeezes then missing (" after ".toList ++ quoted one) both
      else if !deletes && !squeezes then missing (" after ".toList ++ quoted one) lastOnly
      else
        let set := CharacterSet.expand 0 (← read one)
        let isIn (c : Char) : Bool := set.contains c != complement
        let text ← readAll 0
        put (if deletes then text.filter (!isIn ·) else squeeze isIn text)
        return 0
    | two :: more =>
      if more.length ≥ 1 then misuse 1 ("extra operand ".toList ++ quoted (more.headD []))
      else if deletes && !squeezes then
        warn ("extra operand ".toList ++ quoted two)
        err "Only one string may be given when deleting without squeezing repeats.\n".toList
        err ("Try '".toList ++ (← ownName) ++ " --help' for more information.\n".toList)
        return 1
      else
        let set := CharacterSet.expand 0 (← read one)
        let set :=
          if complement then
            (CharacterSet.range (Char.ofNat 0) (Char.ofNat 255)).filter (!set.contains ·)
          else set
        let other := CharacterSet.expand set.length (← read two)
        let text ← readAll 0
        if deletes then
          put (squeeze other.contains (text.filter (!set.contains ·)))
          return 0
        else
          if other.isEmpty && !g.has 't' then
            refuse 1 "when not truncating set1, string2 must be non-empty".toList
          let last := other.getLast?.getD 'x'
          let count := if g.has 't' then min set.length other.length else set.length
          let pairs := (set.take count).zip (other ++ List.replicate (count - other.length) last)
          let table := pairs.reverse
          let translated := text.map fun c => (table.lookup c).getD c
          put (if squeezes then squeeze other.contains translated else translated)
          return 0

/-- Replaces tabs by blanks. -/
def expand : Tool := fun _ args => do
  let g ← options (valuedWords [('t', "tabs")] ++ words [('i', "initial")]) true 1 args
  let stop := max 1 (((g.value? 't').bind natural?).getD 8)
  let line (l : Chars) : Chars :=
    (l.foldl (fun (acc, n) c =>
      if c = '\t' then
        let k := stop - n % stop
        (List.replicate k ' ' ++ acc, n + k)
      else (c :: acc, n + 1)) ([], 0)).1.reverse
  let texts ← (filesOf g).mapM textOrWarn
  put ((fullLines (texts.filterMap id).flatten).flatMap line)
  return statusOfAll (texts.map (·.isSome))

end DeviceKeys.Tool
