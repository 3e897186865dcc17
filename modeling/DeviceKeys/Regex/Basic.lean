import DeviceKeys.Shell.Pattern

/-! # Regular expressions

A `Regex` describes parts of a text. `Regex.search` finds the leftmost part that is described, and of
those that start there the longest.

* A match is followed through states: a place in the text and the parts that brackets took
  (`State`). `Regex.ends` gives the states in which a match of an expression can end.
* Of the states at one place only the first is kept, unless the expression refers back to what
  brackets took. Each part of a row takes the most it can, from the left.
-/

namespace DeviceKeys

open Shell (Chars Choice Pattern)

/-- A regular expression. -/
inductive Regex where
  | exact (c : Char)
  | any
  | among (excluded : Bool) (choices : List Choice)
  | lineStart
  | lineEnd
  | textStart
  | textEnd
  | wordStart
  | wordEnd
  | wordEdge (wanted : Bool)
  | group (number : Nat) (r : Regex)
  | back (number : Nat)
  | row (rs : List Regex)
  | either (rs : List Regex)
  | repeated (low : Nat) (high : Option Nat) (r : Regex)

namespace Regex

instance : Inhabited Regex := ⟨.any⟩

/-- A part of a text: from a place to a place. -/
abbrev Part := Nat × Nat

/-- Where a match has come to, and what brackets took, the last first. -/
structure State where
  place : Nat
  taken : List (Nat × Part)
  deriving DecidableEq

/-- How a text is looked at: whether the case of letters counts, whether a line may start or end
    inside the text, and whether the text starts and ends where a line does. -/
structure View where
  text : Array Char
  fold : Bool
  multiline : Bool
  atStart : Bool
  backs : Bool

/-- The character may stand in a word. -/
def isWordChar (c : Char) : Bool := c.isAlphanum || c = '_'

namespace View

/-- The character at a place. -/
def char? (v : View) (n : Nat) : Option Char := v.text[n]?

/-- The characters count as the same. -/
def same (v : View) (a b : Char) : Bool :=
  a = b || (v.fold && a.toLower = b.toLower)

/-- The character is among some choices. -/
def isAmong (v : View) (choices : List Choice) (c : Char) : Bool :=
  let has (c : Char) : Bool := choices.any (Pattern.Choice.holds c)
  has c || (v.fold && (has c.toLower || has c.toUpper))

/-- A line starts at a place. -/
def startsLine (v : View) (n : Nat) : Bool :=
  if n = 0 then v.atStart else v.multiline && v.char? (n - 1) = some '\n'

/-- A line ends at a place. -/
def endsLine (v : View) (n : Nat) : Bool :=
  n = v.text.size || (v.multiline && v.char? n = some '\n')

/-- A word character stands in front of a place. -/
def wordBefore (v : View) (n : Nat) : Bool := 0 < n && (v.char? (n - 1)).any isWordChar

/-- A word character stands at a place. -/
def wordAt (v : View) (n : Nat) : Bool := (v.char? n).any isWordChar

/-- The part of the text stands again at a place. -/
def repeats (v : View) (p : Part) (n : Nat) : Bool :=
  (List.range (p.2 - p.1)).all fun i =>
    match v.char? (p.1 + i), v.char? (n + i) with
    | some a, some b => v.same a b
    | _, _ => false

end View

/-! ## 1. Matching -/

/-- The states count as the same. -/
def State.same (v : View) (a b : State) : Bool :=
  a.place = b.place && (!v.backs || a.taken = b.taken)

/-- The states without those that count as the same as an earlier one. -/
def distinct (v : View) (ss : List State) : List State :=
  (ss.foldl (fun done s => if done.any (State.same v s) then done else s :: done) []).reverse

/-- The states that came furthest first. -/
def furthest (ss : List State) : List State := ss.mergeSort fun a b => b.place ≤ a.place

/-- The state after a character. -/
def State.next (s : State) : State := { s with place := s.place + 1 }

/-- The state if a condition holds at its place. -/
def State.when (s : State) (b : Bool) : List State := if b then [s] else []

/-- The states reached by so many turns at most. `fresh` are those that the last turn reached and
    `done` all before. -/
def turns (v : View) (step : State → List State) : Nat → List State → List State → List State
  | 0, _, done => done
  | n + 1, fresh, done =>
    let reached := distinct v (fresh.flatMap step)
    let new := reached.filter fun s => !done.any (State.same v s)
    if new.isEmpty then done else turns v step n new (done ++ new)

/-- The states reached by so many turns exactly. -/
def exactTurns (v : View) (step : State → List State) : Nat → List State → List State
  | 0, ss => ss
  | n + 1, ss =>
    let reached := distinct v (ss.flatMap step)
    if reached.isEmpty then [] else exactTurns v step n reached

mutual

/-- The states in which a match that starts in a state can end. -/
def ends (v : View) (s : State) : Regex → List State
  | .exact c => if (v.char? s.place).any (v.same c) then [s.next] else []
  | .any => if (v.char? s.place).isSome then [s.next] else []
  | .among excluded choices =>
    if (v.char? s.place).any fun c => v.isAmong choices c != excluded then [s.next] else []
  | .lineStart => s.when (v.startsLine s.place)
  | .lineEnd => s.when (v.endsLine s.place)
  | .textStart => s.when (s.place = 0 && v.atStart)
  | .textEnd => s.when (s.place = v.text.size)
  | .wordStart => s.when (!v.wordBefore s.place && v.wordAt s.place)
  | .wordEnd => s.when (v.wordBefore s.place && !v.wordAt s.place)
  | .wordEdge wanted => s.when ((v.wordBefore s.place != v.wordAt s.place) = wanted)
  | .group number r =>
    (furthest (ends v s r)).map fun t =>
      { t with taken := (number, s.place, t.place) :: t.taken.filter (·.1 ≠ number) }
  | .back number =>
    match s.taken.lookup number with
    | some p =>
      if v.repeats p s.place then [{ s with place := s.place + (p.2 - p.1) }] else []
    | none => []
  | .row rs => rowEnds v [s] rs
  | .either rs => distinct v (furthest (eitherEnds v s rs))
  | .repeated low high r =>
    let step (t : State) : List State := ends v t r
    let started := exactTurns v step low [s]
    let more := (high.map (· - low)).getD (v.text.size + 1)
    furthest (turns v step more started started)

/-- The states in which a match of a row can end that starts in one of some states. -/
def rowEnds (v : View) (ss : List State) : List Regex → List State
  | [] => ss
  | r :: rs =>
    let next := distinct v (ss.flatMap fun s => ends v s r)
    if next.isEmpty then [] else rowEnds v next rs

/-- The states in which a match of one of some expressions can end. -/
def eitherEnds (v : View) (s : State) : List Regex → List State
  | [] => []
  | r :: rs => ends v s r ++ eitherEnds v s rs

end

/-! ## 2. Searching -/

mutual

/-- The expression refers back to what brackets took. -/
def hasBacks : Regex → Bool
  | .back _ => true
  | .group _ r => hasBacks r
  | .row rs => anyBacks rs
  | .either rs => anyBacks rs
  | .repeated _ _ r => hasBacks r
  | _ => false

/-- One of the expressions refers back to what brackets took. -/
def anyBacks : List Regex → Bool
  | [] => false
  | r :: rs => hasBacks r || anyBacks rs

end

mutual

/-- The greatest number of brackets in an expression. -/
def groups : Regex → Nat
  | .group number r => max number (groups r)
  | .row rs => allGroups rs
  | .either rs => allGroups rs
  | .repeated _ _ r => groups r
  | _ => 0

/-- The greatest number of brackets in some expressions. -/
def allGroups : List Regex → Nat
  | [] => 0
  | r :: rs => max (groups r) (allGroups rs)

end

/-- What a search found: the part that is described, and the parts that brackets took. -/
structure Found where
  start : Nat
  stop : Nat
  taken : List (Nat × Part)

/-- The longest match that starts at a place. -/
def matchAt? (r : Regex) (v : View) (n : Nat) : Option Found :=
  (furthest (ends v ⟨n, []⟩ r)).head?.map fun s => ⟨n, s.place, s.taken⟩

/-- The leftmost match that starts at a place or at one of the `count` places behind it. -/
def searchFrom (r : Regex) (v : View) : Nat → Nat → Option Found
  | 0, n => matchAt? r v n
  | k + 1, n => (matchAt? r v n).or (searchFrom r v k (n + 1))

/-- A text seen as a line. -/
def lineView (r : Regex) (fold : Bool) (text : Chars) : View :=
  ⟨text.toArray, fold, false, true, r.hasBacks⟩

/-- The leftmost match in a text at or behind a place. -/
def search (r : Regex) (v : View) (start : Nat) : Option Found :=
  if v.text.size < start then none else searchFrom r v (v.text.size - start) start

/-- The expression describes a part of a text. -/
def isIn (r : Regex) (fold : Bool) (text : Chars) : Bool :=
  (search r (lineView r fold text) 0).isSome

/-- A part of a text. -/
def Part.of (p : Part) (v : View) : Chars := (v.text.extract p.1 p.2).toList

/-- The text that brackets took. -/
def Found.group (f : Found) (v : View) (n : Nat) : Chars :=
  if n = 0 then Part.of (f.start, f.stop) v
  else ((f.taken.lookup n).map fun p => Part.of p v).getD []

end Regex

end DeviceKeys
