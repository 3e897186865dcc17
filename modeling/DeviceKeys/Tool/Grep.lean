import DeviceKeys.Regex.Syntax
import DeviceKeys.Tool.Sorting
import DeviceKeys.Tool.Tree

/-! # The program `grep`

`Tool.grep` prints the lines that one of some patterns describes. A pattern is a regular expression
or a plain text; with the option `-w` it must fit a word and with `-x` a line.
-/

namespace DeviceKeys.Tool

open Shell Act

namespace Grep

/-! ## 1. Patterns -/

/-- A pattern: a plain text or a regular expression. -/
inductive Sought where
  | text (s : Chars)
  | regex (r : Regex)

/-- The place of a plain text in another at or behind a place, of a count of places. -/
def placeOf (same : Char → Char → Bool) (s : Chars) : Nat → Nat → Chars → Option Nat
  | 0, _, _ => none
  | n + 1, place, t =>
    let fits := s.length ≤ t.length && (s.zip t).all fun (a, b) => same a b
    if fits then some place
    else
      match t with
      | [] => none
      | _ :: t => placeOf same s n (place + 1) t

/-- The leftmost part of a line at or behind a place that a pattern describes. -/
def find? (fold : Bool) (line : Chars) (start : Nat) : Sought → Option Regex.Part
  | .text s =>
    let same (a b : Char) : Bool := a = b || (fold && a.toLower = b.toLower)
    (placeOf same s (line.length + 1) start (line.drop start)).map fun n => (n, n + s.length)
  | .regex r => (r.search (r.lineView fold line) start).map fun f => (f.start, f.stop)

/-- The part of a line is a word or the whole line where it must be one. -/
def fitsAs (word whole : Bool) (text : Array Char) (p : Regex.Part) : Bool :=
  let isWordAt (n : Nat) : Bool := (text[n]?).any Regex.isWordChar
  (!word || ((p.1 = 0 || !isWordAt (p.1 - 1)) && !isWordAt p.2)) &&
    (!whole || (p.1 = 0 && p.2 = text.size))

/-- The places in which a match of a pattern that starts at a place can end, the furthest first. -/
def endsAt (fold : Bool) (line : Chars) (n : Nat) : Sought → List Nat
  | .text s =>
    match find? fold line n (.text s) with
    | some (a, b) => if a = n then [b] else []
    | none => []
  | .regex r =>
    (Regex.furthest (r.ends (r.lineView fold line) ⟨n, []⟩)).map (·.place)

/-- The leftmost part of a line at or behind a place that fits a pattern as it must. -/
def partFrom (fold word whole : Bool) (line : Chars) (x : Sought) : Nat → Nat → Option Regex.Part
  | 0, _ => none
  | k + 1, n =>
    if word || whole then
      let chars := line.toArray
      match (endsAt fold line n x).find? fun e => fitsAs word whole chars (n, e) with
      | some e => some (n, e)
      | none => partFrom fold word whole line x k (n + 1)
    else find? fold line n x

/-- The leftmost and longest part of a line at or behind a place that fits one of some patterns. -/
def part? (g : Given) (xs : List Sought) (line : Chars) (n : Nat) : Option Regex.Part :=
  let fold := g.has 'i' || g.has 'y'
  let count := line.length + 1 - n
  let found := xs.filterMap fun x => partFrom fold (g.has 'w') (g.has 'x') line x count n
  found.foldl (fun best p =>
    match best with
    | none => some p
    | some b => if p.1 < b.1 || (p.1 = b.1 && b.2 < p.2) then some p else some b) none

/-- All parts of a line that are not empty and fit one of some patterns. -/
def parts (g : Given) (xs : List Sought) (line : Chars) : Nat → Nat → List Regex.Part
  | 0, _ => []
  | k + 1, n =>
    if line.length < n then []
    else
      match part? g xs line n with
      | none => []
      | some p =>
        if p.1 = p.2 then parts g xs line k (p.2 + 1) else p :: parts g xs line k p.2

/-! ## 2. Lines -/

/-- How the lines of a file are shown. -/
structure Display where
  name : Option Chars
  numbers : Bool
  bytes : Bool
  before : Nat
  after : Nat

/-- The text in front of a line, with a sign that tells whether it fits. -/
def Display.front (d : Display) (sign : Char) (number : Nat) : Chars :=
  d.name.elim [] (fun name => name ++ [sign]) ++
    if d.numbers then shown number ++ [sign] else []

/-- The lines that are to be shown, numbered, each with whether it fits: those that fit and those
    near them. -/
def near (d : Display) (lines : List (Nat × Chars × Bool)) : List (Nat × Chars × Bool) :=
  let hits := (lines.filter (·.2.2)).map (·.1)
  if d.before = 0 && d.after = 0 then lines.filter (·.2.2)
  else lines.filter fun (n, _, _) => hits.any fun h => h ≤ n + d.before && n ≤ h + d.after

/-- The text of lines, with a mark where others are left out. -/
def shownLines (d : Display) (context : Bool) : Option Nat → List (Nat × Chars × Bool) → Chars
  | _, [] => []
  | last, (n, line, fits) :: rest =>
    let gap := context && last.any fun l => l + 1 < n
    (if gap then "--\n".toList else []) ++
      lineOf (d.front (if fits then ':' else '-') n ++ line) ++
      shownLines d context (some n) rest

end Grep

open Grep

/-! ## 3. The program -/

/-- The lines of a file in which patterns are sought, with whether they fit. -/
def markedLines (g : Given) (xs : List Sought) (text : Chars) : List (Nat × Chars × Bool) :=
  let lines := linesOf text
  (lines.zip (List.range lines.length)).map fun (l, n) =>
    (n + 1, l, (part? g xs l 0).isSome != g.has 'v')

/-- Shows what fits in the text of a file, and tells whether something does. -/
def showFits (g : Given) (xs : List Sought) (name : Option Chars) (own : Chars) (text : Chars) :
    Act Bool := do
  let number (c : Char) : Option Nat := (g.value? c).bind natural?
  let around := (number 'C').getD 0
  let d : Display := ⟨name, g.has 'n', g.has 'b', (number 'B').getD around, (number 'A').getD around⟩
  let most := (number 'm').getD (text.length + 1)
  let marked := markedLines g xs text
  let fitting := (marked.filter (·.2.2)).take most
  let fits := !fitting.isEmpty
  let context := g.has 'A' || g.has 'B' || g.has 'C'
  let last := (fitting.getLast?.map (·.1)).getD 0
  let capped :=
    if (number 'm').isSome then
      marked.filter fun (n, _, b) => n ≤ last || (n ≤ last + d.after && !b)
    else marked
  if g.has 'q' then return fits
  else if g.has 'L' then
    if !fits then put (lineOf own)
    return fits
  else if g.has 'l' then
    if fits then put (lineOf own)
    return fits
  else if g.has 'c' then
    put (lineOf (name.elim [] (fun n => n ++ [':']) ++ shown fitting.length))
    return fits
  else if g.has 'o' then
    if !g.has 'v' then
      put (fitting.flatMap fun (n, line, _) =>
        (parts g xs line (line.length + 1) 0).flatMap fun p =>
          lineOf (d.front ':' n ++ (line.drop p.1).take (p.2 - p.1)))
    return fits
  else
    let isBinary := text.contains (Char.ofNat 0) && !g.has 'a'
    if isBinary then
      if fits then
        put (lineOf ("Binary file ".toList ++ own ++ " matches".toList))
    else put (shownLines d context none (near d capped))
    return fits

/-- The patterns that the options or the first operand give, and the other operands. -/
def soughtTexts (g : Given) : Act (List Chars × List Chars) := do
  let given ← (g.options.filter fun o => o.1 = 'e' || o.1 = 'f').mapM fun o => do
    if o.1 = 'e' then return o.2.splitOn '\n'
    else
      match ← textOf o.2 with
      | .ok text => return linesOf text
      | .error e => refuse 2 (nameShown o.2 ++ ": ".toList ++ reason e)
  if g.options.any fun o => o.1 = 'e' || o.1 = 'f' then return (given.flatten, g.operands)
  else
    match g.operands with
    | p :: rest => return (p.splitOn '\n', rest)
    | [] => do
      let name ← ownName
      err ("Usage: ".toList ++ name ++ " [OPTION]... PATTERNS [FILE]...\n".toList)
      err ("Try '".toList ++ name ++ " --help' for more information.\n".toList)
      ends 2
      throw .exits

/-- The options of `grep`. -/
def grepFlags : List Flag :=
  words [('E', "extended-regexp"), ('F', "fixed-strings"), ('G', "basic-regexp"),
    ('P', "perl-regexp"), ('i', "ignore-case"), ('y', ""), ('v', "invert-match"),
    ('w', "word-regexp"), ('x', "line-regexp"), ('c', "count"), ('L', "files-without-match"),
    ('l', "files-with-matches"), ('o', "only-matching"), ('q', "quiet"), ('q', "silent"),
    ('s', "no-messages"), ('b', "byte-offset"), ('H', "with-filename"), ('h', "no-filename"),
    ('n', "line-number"), ('r', "recursive"), ('R', "dereference-recursive"), ('a', "text"),
    ('z', "null-data"), ('Z', "null"), ('I', ""), ('T', "initial-tab"),
    ('u', "line-buffered")] ++
  valuedWords [('e', "regexp"), ('f', "file"), ('m', "max-count"), ('A', "after-context"),
    ('B', "before-context"), ('C', "context"), ('1', "include"), ('2', "exclude"),
    ('3', "exclude-dir"), ('4', "label")] ++
  [⟨'5', "color", .optional⟩, ⟨'5', "colour", .optional⟩]

/-- The files below a directory in which something is sought. -/
def filesBelow (g : Given) (fs : FileSystem) (path : Chars) (l : Location) : List Chars :=
  let globs (c : Char) : List Chars := (g.options.filter (·.1 = c)).map (·.2)
  let fits (name : Chars) (ps : List Chars) : Bool :=
    ps.any fun p => (Pattern.ofChars p).fits name
  let wanted (name : Chars) : Bool :=
    ((globs '1').isEmpty || fits name (globs '1')) && !fits name (globs '2')
  let rec go : Nat → Chars → Location → List Chars
    | 0, _, _ => []
    | n + 1, path, l =>
      (fs.names l).flatMap fun name =>
        let text := ofBytes name
        let inner := if path.isEmpty then text else within path text
        match fs.get? (name :: l) with
        | some (.dir _) => if fits text (globs '3') then [] else go n inner (name :: l)
        | some (.file _ _) => if wanted text then [inner] else []
        | _ => []
  go treeDepth path l

/-- Prints the lines of files that patterns describe, in a notation. -/
def grepWith (usual : Char) : Tool := fun _ args => do
  let args := args.map fun a =>
    match a with
    | '-' :: c :: r => if (c :: r).all Char.isDigit then "-C".toList ++ c :: r else a
    | a => a
  let g ← options grepFlags true 2 args
  let kind := (g.last? "EFGP").getD usual
  let (texts, files) ← soughtTexts g
  let dialect : Regex.Dialect := if kind = 'E' || kind = 'P' then Regex.extended else Regex.basic
  let xs ← texts.mapM fun t => do
    if kind = 'F' then return Sought.text t
    else if kind ≠ 'F' && "[:".toList.isPrefixOf t && ":]".toList.isSuffixOf t &&
        !(t.drop 1).contains '[' then
      refuse 2 "character class syntax is [[:space:]], not [:space:]".toList
    else
      match Regex.read dialect t with
      | .ok r => return .regex r
      | .error e => refuse 2 e.message.toList
  let deep := g.has 'r' || g.has 'R'
  let fs ← fs
  let given := if files.isEmpty then (if deep then [[]] else [['-']]) else files
  let expanded := given.flatMap fun f =>
    if deep && f ≠ ['-'] then
      match fs.find (if f.isEmpty then toPath ['.'] else toPath f) with
      | .ok l => if fs.isDirAt l then filesBelow g fs f l else [f]
      | .error _ => [f]
    else [f]
  let titled := g.last? "Hh" = some 'H' ||
    (g.last? "Hh" ≠ some 'h' && (1 < given.length || deep))
  let results ← expanded.mapM fun f => do
    let own := if f = ['-'] then "(standard input)".toList else f
    match ← textOf f with
    | .error .isDirectory => do
      if !g.has 's' then warn (f ++ ": Is a directory".toList)
      return (false, true)
    | .error e => do
      if !g.has 's' then warn (f ++ ": ".toList ++ reason e)
      return (false, true)
    | .ok text => return (← showFits g xs (if titled then some own else none) own text, false)
  let fits := results.any (·.1)
  let broken := results.any (·.2)
  return if fits && (g.has 'q' || !broken) then 0 else if broken then 2 else 1

/-- Prints the lines of files that patterns in the basic notation describe. -/
def grep : Tool := grepWith 'G'

/-- Prints the lines of files that patterns in the extended notation describe. -/
def egrep : Tool := grepWith 'E'

/-- Prints the lines of files in which texts stand. -/
def fgrep : Tool := grepWith 'F'

end DeviceKeys.Tool
