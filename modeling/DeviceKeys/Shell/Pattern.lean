import DeviceKeys.Shell.Word

/-! # Patterns

A `Pattern` describes texts: `*` any text, `?` any character, and brackets one of some characters.
Characters that were quoted stand for themselves, which is why a pattern is read from characters
with a mark each (`Pattern.ofMarked`).

`Pattern.fits` decides whether a whole text is described, and `cutFront` and `cutBack` take away a
part of a text that is.
-/

namespace DeviceKeys.Shell

/-- What brackets hold: a range of characters, or a class by its name. -/
inductive Choice where
  | range (low high : Char)
  | named (name : String)
  deriving DecidableEq, Repr

/-- A piece of a pattern. -/
inductive Mark where
  | exact (c : Char)
  | one
  | any
  | among (excluded : Bool) (choices : List Choice)
  deriving DecidableEq, Repr

/-- A pattern. -/
abbrev Pattern := List Mark

namespace Pattern

/-! ## 1. Reading -/

/-- The character belongs to a class of ASCII characters. -/
def isInClass (name : String) (c : Char) : Bool :=
  match name with
  | "alpha" => c.isAlpha
  | "digit" => c.isDigit
  | "alnum" => c.isAlphanum
  | "upper" => c.isUpper
  | "lower" => c.isLower
  | "space" => c = ' ' || ('\t'.toNat ≤ c.toNat && c.toNat ≤ '\r'.toNat)
  | "blank" => c = ' ' || c = '\t'
  | "punct" => ' '.toNat < c.toNat && c.toNat < 127 && !c.isAlphanum
  | "print" => ' '.toNat ≤ c.toNat && c.toNat < 127
  | "graph" => ' '.toNat < c.toNat && c.toNat < 127
  | "cntrl" => c.toNat < 32 || c.toNat = 127
  | "xdigit" => c.isDigit || ('a' ≤ c && c ≤ 'f') || ('A' ≤ c && c ≤ 'F')
  | _ => false

/-- The names of the classes. -/
def classNames : List String :=
  ["alpha", "digit", "alnum", "upper", "lower", "space", "blank", "punct", "print", "graph",
   "cntrl", "xdigit"]

/-- Reads the name of a class behind its opening bracket. -/
def classNamed? (s : List (Char × Bool)) : Option (String × List (Char × Bool)) :=
  match s with
  | (':', _) :: r =>
    (classNames.find? fun name => (name ++ ":]").toList.isPrefixOf (r.map (·.1))).map fun name =>
      (name, r.drop (name.length + 2))
  | _ => none

/-- Reads what brackets hold, up to the closing one, which may be the first character. -/
def choices : Nat → Bool → List (Char × Bool) → Option (List Choice × List (Char × Bool))
  | 0, _, _ => none
  | _, _, [] => none
  | n + 1, first, (c, quoted) :: r =>
    if c = ']' && !quoted && !first then some ([], r)
    else
      match if c = '[' && !quoted then classNamed? r else none with
      | some (name, r) => (choices n false r).map fun p => (.named name :: p.1, p.2)
      | none =>
        let (c, r) :=
          if c = '\\' && !quoted then
            match r with
            | (d, _) :: r => (d, r)
            | [] => (c, r)
          else (c, r)
        match r with
        | ('-', false) :: (d, q) :: r' =>
          if d = ']' && !q then (choices n false r).map fun p => (.range c c :: p.1, p.2)
          else
            let (d, r') :=
              if d = '\\' && !q then
                match r' with
                | (e, _) :: r'' => (e, r'')
                | [] => (d, r')
              else (d, r')
            (choices n false r').map fun p => (.range c d :: p.1, p.2)
        | r => (choices n false r).map fun p => (.range c c :: p.1, p.2)

/-- Reads brackets behind the opening one. -/
def brackets? (s : List (Char × Bool)) : Option (Mark × List (Char × Bool)) :=
  let (excluded, s) :=
    match s with
    | ('!', false) :: r => (true, r)
    | s => (false, s)
  (choices (s.length + 1) true s).map fun p => (.among excluded p.1, p.2)

/-- Reads a pattern from characters, each with a mark that says whether it was quoted. -/
def ofMarkedFrom : Nat → List (Char × Bool) → Pattern
  | 0, _ => []
  | _, [] => []
  | n + 1, (c, true) :: r => .exact c :: ofMarkedFrom n r
  | n + 1, (c, false) :: r =>
    if c = '*' then .any :: ofMarkedFrom n r
    else if c = '?' then .one :: ofMarkedFrom n r
    else if c = '\\' then
      match r with
      | (d, _) :: r => .exact d :: ofMarkedFrom n r
      | [] => [.exact c]
    else if c = '[' then
      match brackets? r with
      | some (m, r) => m :: ofMarkedFrom n r
      | none => .exact c :: ofMarkedFrom n r
    else .exact c :: ofMarkedFrom n r

/-- Reads a pattern from characters, each with a mark that says whether it was quoted. -/
def ofMarked (s : List (Char × Bool)) : Pattern := ofMarkedFrom s.length s

/-- Reads a pattern without quotes. -/
def ofChars (s : Chars) : Pattern := ofMarked (s.map fun c => (c, false))

/-- The pattern describes more than one text. -/
def isOpen (p : Pattern) : Bool :=
  p.any fun m =>
    match m with
    | .exact _ => false
    | _ => true

/-- The text that a pattern without open places describes. -/
def exactText (p : Pattern) : Chars :=
  p.filterMap fun m =>
    match m with
    | .exact c => some c
    | _ => none

/-! ## 2. Matching -/

/-- The character is described. -/
def Choice.holds (c : Char) : Choice → Bool
  | .range low high => low ≤ c && c ≤ high
  | .named name => isInClass name c

/-- The character is described by a piece that stands for one. -/
def holds (m : Mark) (c : Char) : Bool :=
  match m with
  | .exact d => c = d
  | .one => true
  | .any => true
  | .among excluded choices => choices.any (Choice.holds c) != excluded

/-- The text and what is left when characters are taken off its front one by one. -/
def tails : Chars → List Chars
  | [] => [[]]
  | c :: r => (c :: r) :: tails r

/-- The pattern describes the whole text. -/
def fits : Pattern → Chars → Bool
  | [], s => s.isEmpty
  | .any :: p, s => (tails s).any fun t => fits p t
  | m :: p, c :: s => holds m c && fits p s
  | _ :: _, [] => false

/-! ## 3. Cutting -/

/-- The text without a part in front that the pattern describes, the longest or the shortest. -/
def cutFront (p : Pattern) (longest : Bool) (s : Chars) : Chars :=
  let cuts := List.range (s.length + 1)
  let cuts := if longest then cuts.reverse else cuts
  match cuts.find? fun n => fits p (s.take n) with
  | some n => s.drop n
  | none => s

/-- The text without a part at the end that the pattern describes, the longest or the shortest. -/
def cutBack (p : Pattern) (longest : Bool) (s : Chars) : Chars :=
  let cuts := List.range (s.length + 1)
  let cuts := if longest then cuts else cuts.reverse
  match cuts.find? fun n => fits p (s.drop n) with
  | some n => s.take n
  | none => s

end Pattern

end DeviceKeys.Shell
