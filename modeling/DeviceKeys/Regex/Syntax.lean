import DeviceKeys.Regex.Basic

/-! # How regular expressions are written

`Regex.read` reads an expression in one of two notations (`Dialect`).

* In the basic one, brackets and braces and the signs `+`, `?` and `|` mean something only behind a
  backslash; in the extended one, only without.
* A sign of repetition in front stands for itself in the basic notation, and is passed over in the
  extended one. A brace that starts no count stands for itself in the extended notation.
* A strict notation refuses such signs and braces (`Dialect.strict`).
-/

namespace DeviceKeys

open Shell (Chars Choice Pattern)

namespace Regex

/-- A notation: whether marks such as `\t` stand for characters in it, in brackets too, and whether it
    refuses signs of repetition that repeat nothing. -/
structure Dialect where
  extended : Bool
  marks : Bool
  strict : Bool

/-- Why a text is no expression. -/
inductive Fault where
  | openBracket
  | openGroup
  | closeGroup
  | openBrace
  | badBrace
  | nothingRepeated
  | trailingBackslash
  | rangeEnd
  | badClass
  | badElement
  | badBack
  | badPattern
  | tooBig
  deriving DecidableEq, Repr

/-- The text of a fault. -/
def Fault.message : Fault → String
  | openBracket => "Unmatched [, [^, [:, [., or [="
  | openGroup => "Unmatched ( or \\("
  | closeGroup => "Unmatched ) or \\)"
  | openBrace => "Unmatched \\\x7b"
  | badBrace => "Invalid content of \\\x7b\\\x7d"
  | nothingRepeated => "Invalid preceding regular expression"
  | trailingBackslash => "Trailing backslash"
  | rangeEnd => "Invalid range end"
  | badClass => "Invalid character class name"
  | badElement => "Invalid collation character"
  | badPattern => "Invalid regular expression"
  | tooBig => "Regular expression too big"
  | badBack => "Invalid back reference"

/-! ## 1. Brackets -/

/-- The character of a mark of one letter, where marks count. -/
def mark? (d : Dialect) (c : Char) : Option Char :=
  if d.marks then
    match c with
    | 'n' => some '\n'
    | 't' => some '\t'
    | 'r' => some '\r'
    | 'f' => some (Char.ofNat 12)
    | 'v' => some (Char.ofNat 11)
    | 'a' => some (Char.ofNat 7)
    | _ => none
  else none

/-- Reads a character in brackets, which may be written with points or equals signs around it. -/
def bracketChar (d : Dialect) (s : Chars) : Option (Char × Chars) :=
  match s with
  | '[' :: '.' :: c :: '.' :: ']' :: r => some (c, r)
  | '[' :: '=' :: c :: '=' :: ']' :: r => some (c, r)
  | '\\' :: c :: r =>
    match mark? d c with
    | some m => some (m, r)
    | none => if d.marks then some (c, r) else some ('\\', c :: r)
  | c :: r => some (c, r)
  | [] => none

/-- Reads what brackets hold, up to the closing one, which may be the first character. -/
def bracketChoices (d : Dialect) : Nat → Bool → Chars → Except Fault (List Choice × Chars)
  | 0, _, _ => .error .openBracket
  | _, _, [] => .error .openBracket
  | n + 1, first, s =>
    match s with
    | ']' :: r =>
      if !first then .ok ([], r)
      else (bracketRange d n ']' r)
    | '[' :: ':' :: r =>
      match Pattern.classNames.find? fun name => (name ++ ":]").toList.isPrefixOf r with
      | some name =>
        (bracketChoices d n false (r.drop (name.length + 2))).map fun p =>
          (.named name :: p.1, p.2)
      | none => .error (if r.contains ']' then .badClass else .openBracket)
    | '[' :: '.' :: r =>
      match bracketChar d s with
      | some (c, rest) =>
        if c = '[' then .error (if r.contains ']' then .badElement else .openBracket)
        else bracketRange d n c rest
      | none => .error .openBracket
    | s =>
      match bracketChar d s with
      | some (c, r) => bracketRange d n c r
      | none => .error .openBracket
where
  /-- Reads what follows a character in brackets: perhaps the end of a range that starts with it. -/
  bracketRange (d : Dialect) (n : Nat) (c : Char) (r : Chars) :
      Except Fault (List Choice × Chars) :=
    match r with
    | '-' :: ']' :: _ => (bracketChoices d n false r).map fun p => (.range c c :: p.1, p.2)
    | '-' :: r' =>
      match bracketChar d r' with
      | some (e, r'') =>
        if e < c then .error .rangeEnd
        else (bracketChoices d n false r'').map fun p => (.range c e :: p.1, p.2)
      | none => .error .openBracket
    | r => (bracketChoices d n false r).map fun p => (.range c c :: p.1, p.2)

/-- Reads brackets behind the opening one. -/
def brackets (d : Dialect) (s : Chars) : Except Fault (Regex × Chars) :=
  let (excluded, s) := match s with
    | '^' :: r => (true, r)
    | s => (false, s)
  if s.isEmpty then .error .badPattern
  else (bracketChoices d (2 * s.length + 2) true s).map fun p => (.among excluded p.1, p.2)

/-! ## 2. Repetition -/

/-- What stands behind an opening brace: a count, a fault, or nothing of the kind. -/
inductive Braces where
  | count (low : Nat) (high : Option Nat) (rest : Chars)
  | wrong (f : Fault)
  | none

/-- The greatest count of repetitions. -/
def greatestCount : Nat := 32767

/-- Reads a count in braces behind the opening one. -/
def braces (d : Dialect) (s : Chars) : Braces :=
  let digits (s : Chars) : Chars := s.takeWhile Char.isDigit
  let number (ds : Chars) : Nat := ds.foldl (fun n c => n * 10 + (c.toNat - '0'.toNat)) 0
  let closing (r : Chars) : Option Chars :=
    let sign : Chars := if d.extended then ['\x7d'] else ['\\', '\x7d']
    if sign.isPrefixOf r then some (r.drop sign.length) else .none
  let low := digits s
  let r := s.drop low.length
  let high := match r with
    | ',' :: r => digits r
    | _ => low
  let behind := match r with
    | ',' :: r => r.drop high.length
    | r => r
  let unended : Bool := !((List.range (s.length + 1)).any fun n => (closing (s.drop n)).isSome)
  if low.isEmpty && r.head? ≠ some ',' && (closing r).isSome then .wrong .badBrace
  else
    match closing behind with
    | some rest =>
      if !low.isEmpty || r.head? = some ',' then
        let least := number low
        if !high.isEmpty && number high < least then .wrong .badBrace
        else if greatestCount < max least (number high) then .wrong .tooBig
        else .count least (if high.isEmpty then .none else some (number high)) rest
      else .none
    | .none =>
      if d.extended && !d.strict then .none
      else .wrong (if unended then .openBrace else .badBrace)

/-- Reads the signs of repetition behind an expression. `again` says that it is repeated already. -/
def repetitions (d : Dialect) : Nat → Bool → Regex → Chars → Except Fault (Regex × Chars)
  | 0, _, r, s => .ok (r, s)
  | n + 1, again, r, s =>
    let refused := again && d.strict && !d.extended
    let counted (behind : Chars) : Except Fault (Regex × Chars) :=
      if refused then .error .nothingRepeated
      else
        match braces d behind with
        | .count low high rest => repetitions d n true (.repeated low high r) rest
        | .wrong f => .error f
        | .none => .ok (r, s)
    match s with
    | '*' :: rest =>
      if refused then .error .nothingRepeated
      else repetitions d n true (.repeated 0 none r) rest
    | '\\' :: c :: rest =>
      if d.extended then .ok (r, s)
      else if c = '+' then repetitions d n true (.repeated 1 none r) rest
      else if c = '?' then repetitions d n true (.repeated 0 (some 1) r) rest
      else if c = '\x7b' then counted rest
      else .ok (r, s)
    | c :: rest =>
      if !d.extended then .ok (r, s)
      else if c = '+' then repetitions d n true (.repeated 1 none r) rest
      else if c = '?' then repetitions d n true (.repeated 0 (some 1) r) rest
      else if c = '\x7b' then counted rest
      else .ok (r, s)
    | [] => .ok (r, s)

/-! ## 3. Expressions -/

/-- What stands in front of the rest of an expression. -/
inductive Piece where
  | atom (r : Regex)
  | opening
  | closing
  | bar

/-- The choices that a letter behind a backslash stands for. -/
def letterClass? (c : Char) : Option Regex :=
  match c with
  | 'w' => some (.among false [.named "alnum", .range '_' '_'])
  | 'W' => some (.among true [.named "alnum", .range '_' '_'])
  | 's' => some (.among false [.named "space"])
  | 'S' => some (.among true [.named "space"])
  | 'b' => some (.wordEdge true)
  | 'B' => some (.wordEdge false)
  | '<' => some .wordStart
  | '>' => some .wordEnd
  | '`' => some .textStart
  | '\'' => some .textEnd
  | _ => none

/-- The rest is one in front of which a line may end in the basic notation. -/
def endsHere (s : Chars) : Bool :=
  s.isEmpty || "\\)".toList.isPrefixOf s || "\\|".toList.isPrefixOf s

/-- Reads a piece. `first` says that nothing stands before it in its row, and `groups` is the count of
    groups that have been closed. -/
def piece (d : Dialect) (first : Bool) (groups : Nat) (s : Chars) :
    Except Fault (Piece × Chars) :=
  let atom (r : Regex) (rest : Chars) : Except Fault (Piece × Chars) := .ok (.atom r, rest)
  match s with
  | [] => .ok (.closing, [])
  | '\\' :: [] => .error .trailingBackslash
  | '\\' :: c :: r =>
    if !d.extended && c = '(' then .ok (.opening, r)
    else if !d.extended && c = ')' then .ok (.closing, r)
    else if !d.extended && c = '|' then .ok (.bar, r)
    else if c.isDigit && c ≠ '0' then
      let n := c.toNat - '0'.toNat
      if n ≤ groups then atom (.back n) r else .error .badBack
    else
      match (letterClass? c), mark? d c with
      | _, some m => atom (.exact m) r
      | some x, none => atom x r
      | none, none => atom (.exact c) r
  | '[' :: r => (brackets d r).map fun p => (.atom p.1, p.2)
  | '.' :: r => atom .any r
  | '^' :: r => if d.extended || first then atom .lineStart r else atom (.exact '^') r
  | '$' :: r => if d.extended || endsHere r then atom .lineEnd r else atom (.exact '$') r
  | c :: r =>
    if d.extended && c = '(' then .ok (.opening, r)
    else if d.extended && c = ')' then .ok (.closing, r)
    else if d.extended && c = '|' then .ok (.bar, r)
    else atom (.exact c) r

/-- What has been read: rows that are ended and the row begun, the last first, the text left, and the
    count of groups that were opened. -/
structure Reading where
  ended : List Regex
  row : List Regex
  rest : Chars
  groups : Nat

/-- The row with its pieces in order. -/
def Reading.closedRow (x : Reading) : Regex := .row x.row.reverse

/-- The whole of what has been read. -/
def Reading.whole (x : Reading) : Regex :=
  match x.ended with
  | [] => x.closedRow
  | rs => .either (rs.reverse ++ [x.closedRow])

/-- Reads rows up to the end of the text or of a group. `depth` is the count of groups that are
    open. -/
def rows (d : Dialect) (depth : Nat) : Nat → Reading → Except Fault Reading
  | 0, x => .ok x
  | n + 1, x => do
    let first := x.row.isEmpty || (x.row matches [.lineStart])
    let isSign (c : Char) : Bool :=
      c = '*' || (d.extended && (c = '+' || c = '?' || (c = '\x7b' && 1 < x.rest.length)))
    match x.rest with
    | [] => if 0 < depth then .error .openGroup else .ok x
    | c :: r =>
      if isSign c && first && !d.extended then
        let (atom, rest) ← repetitions d r.length false (.exact c) r
        rows d depth n { x with row := atom :: x.row, rest := rest }
      else if first && d.strict && (isSign c || (d.extended && c = '\x7b')) then
        .error .nothingRepeated
      else if first && d.strict && !d.extended && "\\\x7b".toList.isPrefixOf x.rest then
        .error .nothingRepeated
      else if isSign c && first then rows d depth n { x with rest := r }
      else
        match ← piece d x.row.isEmpty x.groups x.rest with
        | (.atom a, rest) => do
          let isAnchor := a matches .lineStart
          let (atom, rest) ←
            if isAnchor && !d.extended then pure (a, rest)
            else repetitions d rest.length false a rest
          rows d depth n { x with row := atom :: x.row, rest := rest }
        | (.bar, rest) =>
          rows d depth n { x with ended := x.closedRow :: x.ended, row := [], rest := rest }
        | (.closing, rest) =>
          if 0 < depth then .ok { x with rest := rest }
          else if d.extended && !d.strict then
            rows d depth n { x with row := .exact ')' :: x.row, rest := rest }
          else .error .closeGroup
        | (.opening, rest) => do
          let number := x.groups + 1
          let inner ← rows d (depth + 1) n ⟨[], [], rest, number⟩
          let (atom, rest) ←
            repetitions d inner.rest.length false (.group number inner.whole) inner.rest
          rows d depth n { x with row := atom :: x.row, rest := rest, groups := inner.groups }

/-- Reads an expression. -/
def read (d : Dialect) (s : Chars) : Except Fault Regex :=
  (rows d 0 (s.length + 1) ⟨[], [], s, 0⟩).map Reading.whole

/-- The basic notation. -/
def basic : Dialect := ⟨false, false, false⟩

/-- The extended notation. -/
def extended : Dialect := ⟨true, false, false⟩

end Regex

end DeviceKeys
