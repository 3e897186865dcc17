import DeviceKeys.Tool.Tree

/-! # Programs that compare files

`cmp` tells where two files differ first, and `diff` which lines make the one from the other.

* `diff` keeps as many lines as it can (`Difference.keptLengths`). A run of lines that is added or
  taken away is moved towards the end of the file where the lines allow it.
* Directories are compared by the names that they hold.
-/

namespace DeviceKeys.Tool

open Shell Act

/-! ## 1. The first difference -/

/-- Tells what is wrong with the arguments, and where to find help. -/
def misuseOfTwo {α : Type} (text : Chars) : Act α := do
  warn text
  refuse 2 ("Try '".toList ++ (← ownName) ++ " --help' for more information.".toList)

/-- Tells that operands are missing. -/
def missingOperand (last : Chars) : Act Nat :=
  misuseOfTwo ("missing operand after ".toList ++ quoted last)

/-- Reads the options of a program that compares two files. -/
def optionsOfTwo (flags : List Flag) (args : List Chars) : Act Given := do
  match read flags true (2 * (args.flatten.length + args.length) + 2) [] args with
  | .ok g => return g
  | .error text => misuseOfTwo text

/-- The count of bytes in front that are alike. -/
def alike : Chars → Chars → Nat
  | a :: as, b :: bs => if a = b then alike as bs + 1 else 0
  | _, _ => 0

/-- The pairs of bytes that differ, with their places. -/
def unlike : Nat → Chars → Chars → List (Nat × Char × Char)
  | n, a :: as, b :: bs =>
    if a = b then unlike (n + 1) as bs else (n, a, b) :: unlike (n + 1) as bs
  | _, _, _ => []

/-- A byte in base eight. -/
def octal (c : Char) : Chars := Nat.toDigits 8 c.toNat

/-- Compares two files byte by byte. -/
def cmp : Tool := fun _ args => do
  let g ← optionsOfTwo (words [('s', "quiet"), ('s', "silent"), ('l', "verbose"),
    ('b', "print-bytes")] ++ valuedWords [('n', "bytes"), ('i', "ignore-initial")]) args
  match g.operands with
  | [] => missingOperand (← ownName)
  | a :: rest => do
    let b := rest.headD ['-']
    let read (f : Chars) : Act (Option Chars) := do
      match ← textOf f with
      | .ok t => return some t
      | .error e => do
        if !g.has 's' then warn (f ++ ": ".toList ++ reason e)
        return none
    match ← read a with
    | none => return 2
    | some s =>
      match ← read b with
      | none => return 2
      | some t => do
        let skipped := ((g.value? 'i').bind natural?).getD 0
        let most := ((g.value? 'n').bind natural?).getD (s.length + t.length)
        let s := (s.drop skipped).take most
        let t := (t.drop skipped).take most
        let n := alike s t
        let ended (f : Chars) (text : Chars) : Act Unit := do
          let lines := text.count '\n'
          if text.isEmpty then warn ("EOF on ".toList ++ f ++ " which is empty".toList)
          else if g.has 'l' then
            warn ("EOF on ".toList ++ f ++ " after byte ".toList ++ shown text.length)
          else
            let line :=
              if text.getLast? = some '\n' then ", line ".toList ++ shown lines
              else ", in line ".toList ++ shown (lines + 1)
            warn ("EOF on ".toList ++ f ++ " after byte ".toList ++ shown text.length ++ line)
        if s = t then return 0
        else if g.has 's' then return 1
        else if g.has 'l' then
          let width := (shown (min s.length t.length)).length
          put ((unlike 1 s t).flatMap fun (n, x, y) =>
            lineOf (rightAligned width (shown n) ++ ' ' :: rightAligned 3 (octal x) ++ ' ' ::
              rightAligned 3 (octal y)))
          if s.length < t.length then ended a s
          else if t.length < s.length then ended b t
          return 1
        else if n = s.length then
          ended a s
          return 1
        else if n = t.length then
          ended b t
          return 1
        else
          let line := shown (((s.take n).count '\n') + 1)
          let bytes :=
            if g.has 'b' then
              match s.drop n, t.drop n with
              | x :: _, y :: _ =>
                " is ".toList ++ rightAligned 3 (octal x) ++ ' ' :: x :: ' ' ::
                  rightAligned 3 (octal y) ++ [' ', y]
              | _, _ => []
            else []
          let unit := if g.has 'b' then "byte " else "char "
          put (lineOf (a ++ ' ' :: b ++ " differ: ".toList ++ unit.toList ++ shown (n + 1) ++
            ", line ".toList ++ line ++ bytes))
          return 1

namespace Difference

/-! ## 2. Lines -/

/-- A step from one text to another: a line stays, goes, or comes. -/
inductive Edit where
  | keep (a b : Chars)
  | take (a : Chars)
  | add (b : Chars)

/-- For each place in two rows of lines, the last first, how many lines can be kept behind it. -/
def keptLengths (same : Chars → Chars → Bool) (as bs : Array Chars) : Array (Array Nat) :=
  let row (a : Chars) (below : Array Nat) : Array Nat :=
    let cells := (List.range bs.size).reverse.foldl (fun (cells : List Nat) j =>
      let right := cells.headD 0
      let down := below.getD j 0
      let n := if same a (bs.getD j []) then below.getD (j + 1) 0 + 1 else max right down
      n :: cells) [0]
    cells.toArray
  let start : List (Array Nat) := [Array.replicate (bs.size + 1) 0]
  (as.toList.reverse.foldl (fun rows a => row a (rows.headD #[]) :: rows) start).toArray

/-- The steps from places in two rows of lines on, a count of them at most. -/
def steps (same : Chars → Chars → Bool) (as bs : Array Chars) (kept : Array (Array Nat)) :
    Nat → Nat → Nat → List Edit
  | 0, _, _ => []
  | n + 1, i, j =>
    let value (i j : Nat) : Nat := (kept.getD i #[]).getD j 0
    match as[i]?, bs[j]? with
    | none, none => []
    | some a, none => .take a :: steps same as bs kept n (i + 1) j
    | none, some b => .add b :: steps same as bs kept n i (j + 1)
    | some a, some b =>
      if same a b && value i j = value (i + 1) (j + 1) + 1 then
        .keep a b :: steps same as bs kept n (i + 1) (j + 1)
      else if value i (j + 1) ≤ value (i + 1) j then
        .take a :: steps same as bs kept n (i + 1) j
      else .add b :: steps same as bs kept n i (j + 1)

/-- Lines that change at one place: the lines that go and that come, with the counts of the lines in
    front of them. -/
structure Hunk where
  before : Nat
  taken : List Chars
  after : Nat
  added : List Chars

/-- The hunks of steps. `i` and `j` count the lines in front. -/
def hunks : Nat → Nat → Option Hunk → List Edit → List Hunk
  | _, _, h, [] => h.toList
  | i, j, h, .keep _ _ :: es => h.toList ++ hunks (i + 1) (j + 1) none es
  | i, j, h, .take a :: es =>
    let h := h.getD ⟨i, [], j, []⟩
    hunks (i + 1) j (some { h with taken := h.taken ++ [a] }) es
  | i, j, h, .add b :: es =>
    let h := h.getD ⟨i, [], j, []⟩
    hunks i (j + 1) (some { h with added := h.added ++ [b] }) es

/-- How far a run of lines can be moved towards the end of a text. -/
def slide (same : Chars → Chars → Bool) (lines : Array Chars) (start length : Nat) :
    Nat → Nat → Nat
  | 0, moved => moved
  | n + 1, moved =>
    match lines[start + moved]?, lines[start + moved + length]? with
    | some a, some b => if same a b then slide same lines start length n (moved + 1) else moved
    | _, _ => moved

/-- Hunks with runs moved towards the end as far as the next hunk lets them. -/
def settled (same : Chars → Chars → Bool) (as bs : Array Chars) : List Hunk → List Hunk
  | [] => []
  | h :: rest =>
    let room (own next : Nat) : Nat :=
      match rest with
      | r :: _ => (if own = 0 then r.before - h.before else r.after - h.after) - next
      | [] => as.size + bs.size
    let h :=
      if h.taken.isEmpty then
        let k := slide same bs h.after h.added.length (room 1 h.added.length) 0
        { h with
          before := h.before + k
          after := h.after + k
          added := (bs.extract (h.after + k) (h.after + k + h.added.length)).toList }
      else if h.added.isEmpty then
        let k := slide same as h.before h.taken.length (room 0 h.taken.length) 0
        { h with
          before := h.before + k
          after := h.after + k
          taken := (as.extract (h.before + k) (h.before + k + h.taken.length)).toList }
      else h
    h :: settled same as bs rest

/-- The hunks between two rows of lines. -/
def between (same : Chars → Chars → Bool) (as bs : List Chars) : List Hunk :=
  let rec common : List Chars → List Chars → Nat
    | a :: as, b :: bs => if same a b then common as bs + 1 else 0
    | _, _ => 0
  let front := common as bs
  let as' := as.drop front
  let bs' := bs.drop front
  let back := common as'.reverse bs'.reverse
  let as' := (as'.take (as'.length - back)).toArray
  let bs' := (bs'.take (bs'.length - back)).toArray
  let kept := keptLengths same as' bs'
  let es := steps same as' bs' kept (as'.size + bs'.size + 1) 0 0
  settled same as.toArray bs.toArray (hunks front front none es)

/-! ## 3. Notations -/

/-- A line behind a sign; one without an end is told. -/
def signed (sign : String) (line : Chars) : Chars :=
  sign.toList ++ line ++
    if line.getLast? = some '\n' then [] else "\n\\ No newline at end of file\n".toList

/-- The numbers of the first and the last of lines behind a count of others. -/
def range (before count : Nat) : Chars :=
  if count = 0 then shown before
  else if count = 1 then shown (before + 1)
  else shown (before + 1) ++ ',' :: shown (before + count)

/-- A hunk in the plain notation. -/
def plainHunk (h : Hunk) : Chars :=
  let kind := if h.taken.isEmpty then 'a' else if h.added.isEmpty then 'd' else 'c'
  range h.before h.taken.length ++ kind :: range h.after h.added.length ++ ['\n'] ++
    h.taken.flatMap (signed "< ") ++ (if kind = 'c' then "---\n".toList else []) ++
    h.added.flatMap (signed "> ")

/-- Hunks put together that are near each other. -/
def grouped (context : Nat) : List Hunk → List (List Hunk)
  | [] => []
  | h :: rest =>
    match grouped context rest with
    | (g :: gs) :: more =>
      if g.before ≤ h.before + h.taken.length + 2 * context then (h :: g :: gs) :: more
      else [h] :: (g :: gs) :: more
    | more => [h] :: more

/-- The count of lines in front and how many there are, as the joint notation shows them. -/
def span (before count : Nat) : Chars :=
  if count = 1 then shown (before + 1)
  else shown (if count = 0 then before else before + 1) ++ ',' :: shown count

/-- Hunks in the joint notation, with lines around them. -/
def jointGroup (context : Nat) (as : Array Chars) (hs : List Hunk) : Chars :=
  match hs.head?, hs.getLast? with
  | some first, some last =>
    let lead := min context first.before
    let start := first.before - lead
    let stop := min as.size (last.before + last.taken.length + context)
    let taken := stop - start
    let added := (hs.map fun h => h.added.length).foldl (· + ·) 0
    let gone := (hs.map fun h => h.taken.length).foldl (· + ·) 0
    let rec body : Nat → List Hunk → Chars
      | place, [] => ((as.extract place stop).toList).flatMap (signed " ")
      | place, h :: rest =>
        ((as.extract place h.before).toList).flatMap (signed " ") ++ h.taken.flatMap (signed "-") ++
          h.added.flatMap (signed "+") ++ body (h.before + h.taken.length) rest
    "@@ -".toList ++ span start taken ++ " +".toList ++
      span (first.after - lead) (taken - gone + added) ++ " @@\n".toList ++ body start hs
  | _, _ => []

/-- Lines that count as the same, as options say. -/
def sameLines (g : Given) (a b : Chars) : Bool :=
  let isGap (c : Char) : Bool := c = ' ' || c = '\t' || c = '\r' || c = '\n'
  let rec squeeze : Chars → Chars
    | [] => []
    | c :: r =>
      if isGap c && (r.head?).any isGap then squeeze r
      else (if isGap c then ' ' else c) :: squeeze r
  let seen (s : Chars) : Chars :=
    let s := if g.has 'i' then s.map Char.toLower else s
    if g.has 'w' then s.filter (!isGap ·)
    else if g.has 'b' then ((squeeze s).reverse.dropWhile (· = ' ')).reverse
    else s
  seen a = seen b

end Difference

open Difference

/-! ## 4. Comparing files and directories -/

/-- What was found: the same, a difference, or trouble, with the status for it. -/
abbrev Outcome := Nat

/-- Compares two texts and tells how they differ. -/
def diffTexts (g : Given) (title : Chars) (a b s t : Chars) : Act Outcome := do
  let as := fullLines s
  let bs := fullLines t
  let isBlank (h : Hunk) : Bool := (h.taken ++ h.added).all (· = ['\n'])
  let hs := (between (sameLines g) as bs).filter fun h => !(g.has 'B' && isBlank h)
  if hs.isEmpty then
    if g.has 's' then put ("Files ".toList ++ a ++ " and ".toList ++ b ++ " are identical\n".toList)
    return 0
  else if g.has 'q' then
    put ("Files ".toList ++ a ++ " and ".toList ++ b ++ " differ\n".toList)
    return 1
  else
    put title
    if g.has 'u' || g.has 'U' then
      let labels := (g.options.filter (·.1 = 'L')).map (·.2)
      let stamp := "\t1970-01-01 00:00:00.000000000 +0000".toList
      let context := ((g.value? 'U').bind natural?).getD 3
      put ("--- ".toList ++ (labels[0]?).getD (a ++ stamp) ++ "\n+++ ".toList ++
        (labels[1]?).getD (b ++ stamp) ++ ['\n'])
      put ((grouped context hs).flatMap (jointGroup context as.toArray))
    else put (hs.flatMap plainHunk)
    return 1

/-- Compares what two paths lead to. `args` are the options, to be told with the paths. `inside` says
    that the paths were found in directories. -/
def diffPaths (g : Given) (args : List Chars) : Nat → Bool → Chars → Chars → Act Outcome
  | 0, _, _, _ => return 0
  | n + 1, inside, a, b => do
    let fs ← fs
    let kind (p : Chars) : Option Bool :=
      if p = ['-'] then some false else (fs.stat? (toPath p)).map Entry.isDir
    let trouble (p : Chars) : Act Outcome := do
      warn (p ++ ": No such file or directory".toList)
      return 2
    match kind a, kind b with
    | none, none => do
      let _ ← trouble a
      trouble b
    | none, _ => if g.has 'N' && inside then texts true a b else trouble a
    | _, none => if g.has 'N' && inside then texts true a b else trouble b
    | some true, some true => do
      if inside && !g.has 'r' then
        put ("Common subdirectories: ".toList ++ a ++ " and ".toList ++ b ++ ['\n'])
        return 0
      else
        let names (p : Chars) : List Path.Name :=
          match fs.find (toPath p) with
          | .ok l => fs.names l
          | .error _ => []
        let as := names a
        let bs := names b
        let all := (as ++ bs.filter fun x => !as.contains x).mergeSort FileSystem.namesInOrder
        let results ← all.mapM fun x => do
          let name := ofBytes x
          let only (p : Chars) : Act Outcome := do
            put ("Only in ".toList ++ p ++ ": ".toList ++ name ++ ['\n'])
            return 1
          if as.contains x && bs.contains x || g.has 'N' then
            diffPaths g args n true (within a name) (within b name)
          else if as.contains x then only a
          else only b
        return results.foldl max 0
    | some true, some false =>
      if inside then mixed a "directory" b "regular file"
      else diffPaths g args n false (within a (lastComponent b)) b
    | some false, some true =>
      if inside then mixed a "regular file" b "directory"
      else diffPaths g args n false a (within b (lastComponent a))
    | some false, some false => texts inside a b
where
  /-- Tells that a file and a directory have the same name. -/
  mixed (a : Chars) (x : String) (b : Chars) (y : String) : Act Outcome := do
    put ("File ".toList ++ a ++ " is a ".toList ++ x.toList ++ " while file ".toList ++ b ++
      " is a ".toList ++ y.toList ++ ['\n'])
    return 1
  /-- Compares the texts of files; one that is missing is empty. -/
  texts (inside : Bool) (a b : Chars) : Act Outcome := do
    let read (p : Chars) : Act Chars := do
      match ← textOf p with
      | .ok t => return t
      | .error _ => return []
    let s ← read a
    let t ← read b
    let title :=
      if inside && !g.has 'q' then
        lineOf (List.intercalate [' '] ("diff".toList :: args ++ [a, b]))
      else []
    diffTexts g title a b s t

/-- Tells which lines make one file from another. -/
def diff : Tool := fun _ args => do
  let g ← optionsOfTwo (words [('q', "brief"), ('s', "report-identical-files"), ('r', "recursive"),
    ('N', "new-file"), ('i', "ignore-case"), ('w', "ignore-all-space"),
    ('b', "ignore-space-change"), ('B', "ignore-blank-lines"), ('a', "text"), ('u', ""),
    ('c', ""), ('d', "minimal")] ++
    valuedWords [('U', ""), ('L', "label"), ('x', "exclude"), ('C', "")] ++
    [⟨'u', "unified", .optional⟩, ⟨'k', "color", .optional⟩]) args
  match g.operands with
  | [] => missingOperand (← ownName)
  | [a] => missingOperand a
  | a :: b :: [] =>
    diffPaths g (args.filter fun x => x.head? = some '-' && 1 < x.length) treeDepth false a b
  | _ :: _ :: c :: _ => misuseOfTwo ("extra operand ".toList ++ quoted c)

end DeviceKeys.Tool
