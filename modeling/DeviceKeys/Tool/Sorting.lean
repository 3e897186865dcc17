import DeviceKeys.Decimal.Quantity
import DeviceKeys.Tool.Reading

/-! # Programs for sorted lines

`sort`, `uniq` and `comm`.

* `sort` compares lines by keys. A key is a part of a line, by fields and characters, and is compared
  as a text or by its value; lines that are equal in all keys are compared as a whole, unless they are
  to keep their order.
* The order of texts is the order of their bytes.
-/

namespace DeviceKeys.Tool

open Shell Act

/-! ## 1. Keys -/

/-- How a key is compared. -/
structure LineOrder where
  blanks : Bool
  dictionary : Bool
  fold : Bool
  printing : Bool
  numeric : Bool
  general : Bool
  human : Bool
  version : Bool
  month : Bool
  reverse : Bool

/-- Compares as a text. -/
def plainOrdering : LineOrder :=
  ⟨false, false, false, false, false, false, false, false, false, false⟩

/-- The ordering with what a letter asks for. -/
def LineOrder.adding (o : LineOrder) (c : Char) : LineOrder :=
  match c with
  | 'b' => { o with blanks := true }
  | 'd' => { o with dictionary := true }
  | 'f' => { o with fold := true }
  | 'i' => { o with printing := true }
  | 'n' => { o with numeric := true }
  | 'g' => { o with general := true }
  | 'h' => { o with human := true }
  | 'V' => { o with version := true }
  | 'M' => { o with month := true }
  | 'r' => { o with reverse := true }
  | _ => o

/-- The letters for orderings. -/
def orderingLetters : String := "bdfinghVMr"

/-- A part of a line: from a character of a field to a character of a field. -/
structure SortKey where
  firstField : Nat
  firstChar : Nat
  lastField : Option Nat
  lastChar : Nat
  own : Option LineOrder
  startBlanks : Bool
  endBlanks : Bool

/-- The character is a blank. -/
def isBlank (c : Char) : Bool := c = ' ' || c = '\t' || c = '\n'

/-- The text behind a count of fields. Without a separator a field has the blanks before it. -/
def afterFields (separator : Option Char) : Nat → Chars → Chars
  | 0, s => s
  | n + 1, s =>
    match separator with
    | some t => afterFields separator n ((s.dropWhile (· ≠ t)).drop 1)
    | none => afterFields separator n ((s.dropWhile isBlank).dropWhile (!isBlank ·))

/-- The text behind a count of fields, the separator behind the last of them left. -/
def atFieldEnd (separator : Option Char) (n : Nat) (s : Chars) : Chars :=
  match separator, n with
  | some t, n + 1 => (afterFields separator n s).dropWhile (· ≠ t)
  | _, n => afterFields separator n s

/-- The part of a line that a key names. -/
def SortKey.part (k : SortKey) (separator : Option Char) (line : Chars) : Chars :=
  let start := afterFields separator (k.firstField - 1) line
  let start := if k.startBlanks then start.dropWhile isBlank else start
  let start := start.drop (k.firstChar - 1)
  match k.lastField with
  | none => start
  | some f =>
    let rest :=
      if k.lastChar = 0 then atFieldEnd separator f line
      else
        let field := afterFields separator (f - 1) line
        let field := if k.endBlanks then field.dropWhile isBlank else field
        field.drop k.lastChar
    start.take (start.length - rest.length)

/-! ## 2. Comparing -/

/-- The digits of the number in front of a text, and how many of them stand behind its point. -/
def leadingNumber (s : Chars) : Int × Nat :=
  let s := s.dropWhile isBlank
  let (negative, s) := match s with
    | '-' :: r => (true, r)
    | s => (false, s)
  let whole := Quantity.takeDigits s
  let part := match s.drop whole.length with
    | '.' :: r => Quantity.takeDigits r
    | _ => []
  let n : Int := Quantity.ofDigits (whole ++ part)
  (if negative then -n else n, part.length)

/-- Compares numbers in front of texts. -/
def compareNumbers (a b : Chars) : Ordering :=
  let (m, p) := leadingNumber a
  let (n, q) := leadingNumber b
  compare (m * pow10 q) (n * pow10 p)

/-- Compares quantities as fractions. -/
def compareQuantities (a b : Chars) : Ordering :=
  let rank (q : Option (Quantity × Chars)) : Int × Int × Int :=
    match q with
    | none => (0, 0, 1)
    | some (.undefined _, _) => (1, 0, 1)
    | some (.infinite true, _) => (2, 0, 1)
    | some (.finite negative n d, _) => (3, if negative then -(n : Int) else n, d)
    | some (.infinite false, _) => (4, 0, 1)
  let (k, m, d) := rank (Quantity.read? a)
  let (k', m', d') := rank (Quantity.read? b)
  (compare k k').then (compare (m * d') (m' * d))

/-- The power that a letter behind a number stands for. -/
def unitRank (s : Chars) : Nat :=
  let s := (s.dropWhile isBlank).dropWhile fun c => c = '-' || c.isDigit || c = '.'
  match s with
  | c :: _ => ((("KMGTPEZYRQ".toList.idxOf? c).or ("kMGTPEZYRQ".toList.idxOf? c)).map (· + 1)).getD 0
  | [] => 0

/-- Compares numbers with letters for powers behind them. -/
def compareHuman (a b : Chars) : Ordering :=
  let sign (s : Chars) : Int :=
    let n := (leadingNumber s).1
    if n < 0 then -1 else if n = 0 then 0 else 1
  let rank (s : Chars) : Int := sign s * unitRank s
  ((compare (sign a) (sign b)).then (compare (rank a) (rank b))).then (compareNumbers a b)

/-- The number of a month in front of a text. -/
def monthRank (s : Chars) : Nat :=
  let names := ["JAN", "FEB", "MAR", "APR", "MAY", "JUN", "JUL", "AUG", "SEP", "OCT", "NOV", "DEC"]
  let word := ((s.dropWhile isBlank).take 3).map Char.toUpper
  ((names.idxOf? (String.ofList word)).map (· + 1)).getD 0

/-- The place of a character in the order of versions. -/
def versionRank (c : Char) : Int :=
  if c = '~' then -1 else if c.isDigit then 0 else if c.isAlpha then c.toNat else c.toNat + 256

/-- Compares parts of versions that are no digits. -/
def compareMarks : Chars → Chars → Ordering
  | [], [] => .eq
  | [], c :: _ => compare 0 (versionRank c)
  | c :: _, [] => compare (versionRank c) 0
  | a :: as, b :: bs => (compare (versionRank a) (versionRank b)).then (compareMarks as bs)

/-- Compares versions: parts that are digits by their value, others by their characters. -/
def compareVersions : Nat → Chars → Chars → Ordering
  | 0, _, _ => .eq
  | _, [], [] => .eq
  | n + 1, a, b =>
    let marks := compareMarks (a.takeWhile (!·.isDigit)) (b.takeWhile (!·.isDigit))
    let a := a.dropWhile (!·.isDigit)
    let b := b.dropWhile (!·.isDigit)
    let numbers := compare (Quantity.ofDigits (Quantity.takeDigits a))
      (Quantity.ofDigits (Quantity.takeDigits b))
    (marks.then numbers).then
      (compareVersions n (a.dropWhile Char.isDigit) (b.dropWhile Char.isDigit))

/-- The order of texts by their characters. -/
def compareTexts (a b : Chars) : Ordering := if a = b then .eq else if a < b then .lt else .gt

/-- The text with what an ordering does not look at taken away. -/
def LineOrder.seen (o : LineOrder) (s : Chars) : Chars :=
  let s := if o.dictionary then s.filter fun c => c.isAlphanum || isBlank c else s
  let s := if o.printing then s.filter fun c => ' ' ≤ c && c ≤ '~' else s
  if o.fold then s.map Char.toUpper else s

/-- Compares texts in an ordering. -/
def LineOrder.compare (o : LineOrder) (a b : Chars) : Ordering :=
  let r :=
    if o.numeric then compareNumbers a b
    else if o.general then compareQuantities a b
    else if o.human then compareHuman a b
    else if o.month then Ord.compare (monthRank a) (monthRank b)
    else if o.version then
      (compareVersions (a.length + b.length + 1) a b)
    else compareTexts (o.seen a) (o.seen b)
  if o.reverse then r.swap else r

/-! ## 3. Sorting -/

/-- Reads a place in a line: a field, a character, and letters behind them. -/
def keyPlace? (s : Chars) : Option (Nat × Option Nat × Chars) :=
  let f := Quantity.takeDigits s
  (natural? f).bind fun field =>
    match s.drop f.length with
    | '.' :: r =>
      let c := Quantity.takeDigits r
      (natural? c).map fun char => (field, some char, r.drop c.length)
    | r => some (field, none, r)

/-- Reads a key. -/
def sortKey? (s : Chars) : Option SortKey :=
  let first := s.takeWhile (· ≠ ',')
  let second := s.drop (first.length + 1)
  (keyPlace? first).bind fun (f, c, letters) =>
    let last :=
      if second.isEmpty then some (none, none, [])
      else (keyPlace? second).map fun (f, c, ls) => (some f, c, ls)
    last.bind fun (f', c', letters') =>
      let all := letters ++ letters'
      if f = 0 || !(all.all orderingLetters.toList.contains) then none
      else
        let own := if all.isEmpty then none else some (all.foldl LineOrder.adding plainOrdering)
        some ⟨f, c.getD 1, f', c'.getD 0, own, letters.contains 'b', letters'.contains 'b'⟩

/-- What `sort` is asked for. -/
structure Sorting where
  overall : LineOrder
  keys : List SortKey
  separator : Option Char
  stable : Bool
  unique : Bool

/-- Compares lines by their keys alone. -/
def Sorting.byKeys (s : Sorting) (a b : Chars) : Ordering :=
  if s.keys.isEmpty then
    let bare (l : Chars) := if s.overall.blanks then l.dropWhile isBlank else l
    s.overall.compare (bare a) (bare b)
  else
    s.keys.foldl (fun r k =>
      let o := k.own.getD s.overall
      let k :=
        if k.own.isNone && s.overall.blanks then { k with startBlanks := true, endBlanks := true }
        else k
      r.then (o.compare (k.part s.separator a) (k.part s.separator b))) .eq

/-- Compares lines. -/
def Sorting.compare (s : Sorting) (a b : Chars) : Ordering :=
  let r := s.byKeys a b
  if s.stable || s.unique then r
  else
    let whole := compareTexts a b
    r.then (if s.overall.reverse then whole.swap else whole)

/-- Leaves the first of several lines that are equal. -/
def firstOfEach (same : Chars → Chars → Bool) : List Chars → List Chars
  | [] => []
  | a :: rest =>
    let rec go (a : Chars) : List Chars → List Chars
      | [] => []
      | b :: rest => if same a b then go a rest else b :: go b rest
    a :: go a rest

/-- Sorts the lines of files. -/
def sort : Tool := fun _ args => do
  let g ← options (words [('b', "ignore-leading-blanks"), ('d', "dictionary-order"),
    ('f', "ignore-case"), ('g', "general-numeric-sort"), ('i', "ignore-nonprinting"),
    ('M', "month-sort"), ('h', "human-numeric-sort"), ('n', "numeric-sort"), ('r', "reverse"),
    ('V', "version-sort"), ('c', "check"), ('C', ""), ('m', "merge"), ('s', "stable"),
    ('u', "unique"), ('z', "zero-terminated"), ('R', "random-sort")] ++
    valuedWords [('k', "key"), ('o', "output"), ('t', "field-separator"), ('S', "buffer-size"),
      ('T', "temporary-directory")]) true 2 args
  let overall := (g.options.filter fun o => orderingLetters.toList.contains o.1).foldl
    (fun o c => o.adding c.1) plainOrdering
  let keys ← (g.options.filter (·.1 = 'k')).mapM fun o => do
    match sortKey? o.2 with
    | some k => return k
    | none =>
      if o.2.head? = some '0' then
        refuse 2 ("-: invalid field specification ".toList ++ quoted o.2)
      else
        refuse 2 ("invalid number at field start: invalid count at start of ".toList ++ quoted o.2)
  let separator ←
    match g.value? 't' with
    | none => pure none
    | some [c] => pure (some c)
    | some ['\\', '0'] => pure (some (Char.ofNat 0))
    | some [] => refuse 2 "empty tab".toList
    | some t => refuse 2 ("multi-character tab ".toList ++ quoted t)
  let s : Sorting := ⟨overall, keys, separator, g.has 's', g.has 'u'⟩
  let texts ← (filesOf g).mapM fun f => do
    match ← textOf f with
    | .ok text => return linesOf text
    | .error .isDirectory => refuse 2 ("read failed: ".toList ++ nameShown f ++ ": Is a directory".toList)
    | .error e => refuse 2 ("cannot read: ".toList ++ nameShown f ++ ": ".toList ++ reason e)
  let lines := texts.flatten
  if g.has 'c' || g.has 'C' then
    let rec check : Nat → List Chars → Option (Nat × Chars)
      | n, a :: b :: rest =>
        let wrong := if s.unique then s.compare a b ≠ .lt else s.compare a b = .gt
        if wrong then some (n + 1, b) else check (n + 1) (b :: rest)
      | _, _ => none
    match check 1 lines with
    | none => return 0
    | some (n, line) => do
      let name := if g.operands.isEmpty then ['-'] else g.operands.headD []
      if g.has 'c' then
        warn (name ++ ':' :: shown n ++ ": disorder: ".toList ++ line)
      return 1
  else
    let sorted := lines.mergeSort fun a b => s.compare a b ≠ .gt
    let sorted := if s.unique then firstOfEach (fun a b => s.byKeys a b = .eq) sorted else sorted
    let text := sorted.flatMap lineOf
    match g.value? 'o' with
    | none => do
      put text
      return 0
    | some path =>
      match ← Redirection.openFile path .write with
      | .error e => refuse 2 ("open failed: ".toList ++ nameShown path ++ ": ".toList ++ reason e)
      | .ok n =>
        match (← get).files.lookup n with
        | some e => do
          let _ ← writeTo n e text
          return 0
        | none => return 2

/-! ## 4. Lines that repeat -/

/-- Puts equal neighbours together. -/
def runsOf (same : Chars → Chars → Bool) : List Chars → List (List Chars)
  | [] => []
  | a :: rest =>
    match runsOf same rest with
    | (b :: bs) :: more => if same a b then (a :: b :: bs) :: more else [a] :: (b :: bs) :: more
    | more => [a] :: more

/-- The part of a line that `uniq` compares. -/
def comparedPart (g : Given) (line : Chars) : Chars :=
  let number (c : Char) : Option Nat := (g.value? c).bind natural?
  let rec skip : Nat → Chars → Chars
    | 0, s => s
    | n + 1, s => skip n ((s.dropWhile isBlank).dropWhile (!isBlank ·))
  let s := (skip ((number 'f').getD 0) line).drop ((number 's').getD 0)
  let s := match number 'w' with
    | some w => s.take w
    | none => s
  if g.has 'i' then s.map Char.toLower else s

/-- Leaves one of several equal neighbours among lines. -/
def uniq : Tool := fun _ args => do
  let g ← options (words [('c', "count"), ('d', "repeated"), ('D', ""), ('i', "ignore-case"),
    ('u', "unique"), ('z', "zero-terminated")] ++
    valuedWords [('f', "skip-fields"), ('s', "skip-chars"), ('w', "check-chars")]) true 1 args
  let input := g.operands.headD ['-']
  match ← textOf input with
  | .error e => do
    warn (nameShown input ++ ": ".toList ++ reason e)
    return 1
  | .ok text =>
    let runs := runsOf (fun a b => comparedPart g a = comparedPart g b) (linesOf text)
    let wanted := runs.filter fun r =>
      (!g.has 'd' || 1 < r.length) && (!g.has 'D' || 1 < r.length) && (!g.has 'u' || r.length = 1)
    let out := wanted.flatMap fun r =>
      if g.has 'D' then r.flatMap lineOf
      else
        let count := if g.has 'c' then rightAligned 7 (shown r.length) ++ [' '] else []
        count ++ lineOf (r.headD [])
    match g.operands.drop 1 with
    | [] => put out
    | path :: _ =>
      match ← Redirection.openFile path .write with
      | .error e => refuse 1 (nameShown path ++ ": ".toList ++ reason e)
      | .ok n =>
        match (← get).files.lookup n with
        | some e => do
          let _ ← writeTo n e out
        | none => pure ()
    return 0

/-- The lines of two sorted lists, each with the column that it belongs to. -/
def columnsOf : Nat → List Chars → List Chars → List (Nat × Chars)
  | 0, _, _ => []
  | _, [], bs => bs.map fun b => (2, b)
  | _, as, [] => as.map fun a => (1, a)
  | n + 1, a :: as, b :: bs =>
    match compareTexts a b with
    | .lt => (1, a) :: columnsOf n as (b :: bs)
    | .gt => (2, b) :: columnsOf n (a :: as) bs
    | .eq => (3, a) :: columnsOf n as bs

/-- The files, by their numbers, of which lines are seen to be out of order. A file is looked at from
    the first line on that only one of the files has; `before` is the line in front of what is left
    of a file. -/
def disorder : Nat → (unpaired : Bool) → (before₁ before₂ : Option Chars) →
    List Chars → List Chars → List Nat
  | 0, _, _, _, _, _ => []
  | n + 1, unpaired, before₁, before₂, as, bs =>
    let order : Option Ordering :=
      match as, bs with
      | [], [] => none
      | [], _ => some .gt
      | _, [] => some .lt
      | a :: _, b :: _ => some (compareTexts a b)
    let found (number : Nat) (unpaired : Bool) (before : Option Chars) : List Chars → List Nat
      | [] => []
      | [a] =>
        if unpaired && before.any fun x => compareTexts x a = .gt then [number] else []
      | a :: b :: _ => if unpaired && compareTexts a b = .gt then [number] else []
    match order with
    | none => []
    | some order =>
      let unpaired := unpaired || order ≠ .eq
      let own₁ := if order ≠ .gt then found 1 unpaired before₁ as else []
      let own₂ := if order ≠ .lt then found 2 unpaired before₂ bs else []
      let (before₁, as) := if order ≠ .gt then (as.head?, as.drop 1) else (before₁, as)
      let (before₂, bs) := if order ≠ .lt then (bs.head?, bs.drop 1) else (before₂, bs)
      own₁ ++ own₂ ++ disorder n unpaired before₁ before₂ as bs

/-- Shows which lines are in one of two sorted files, or in both. -/
def comm : Tool := fun _ args => do
  let g ← options (words [('1', ""), ('2', ""), ('3', ""), ('z', "zero-terminated"),
    ('n', "nocheck-order"), ('k', "check-order"), ('t', "total")] ++
    valuedWords [('d', "output-delimiter")]) true 1 args
  match g.operands with
  | [a, b] =>
    let read (f : Chars) : Act (List Chars) := do
      match ← textOf f with
      | .ok text => return linesOf text
      | .error e => refuse 1 (nameShown f ++ ": ".toList ++ reason e)
    let as ← read a
    let bs ← read b
    let tab := (g.value? 'd').getD ['\t']
    put ((columnsOf (as.length + bs.length + 1) as bs).flatMap fun (column, line) =>
      let digit := (shown column).headD '1'
      if g.has digit then []
      else
        let gaps := (if 1 < column && !g.has '1' then tab else []) ++
          (if 2 < column && !g.has '2' then tab else [])
        lineOf (gaps ++ line))
    let out :=
      if g.has 'n' then []
      else (disorder (as.length + bs.length + 1) (g.has 'k') none none as bs).eraseDups
    out.forM fun n => warn ("file ".toList ++ shown n ++ " is not in sorted order".toList)
    if out.isEmpty then return 0
    else refuse 1 "input is not in sorted order".toList
  | [] => misuse 1 "missing operand".toList
  | [a] => misuse 1 ("missing operand after ".toList ++ quoted a)
  | _ :: _ :: c :: _ => misuse 1 ("extra operand ".toList ++ quoted c)

end DeviceKeys.Tool
