import DeviceKeys.Decimal.Binary64

/-! # TOML words

The readers of the smallest parts of a document. Each is given the characters that are left and
gives what follows the part, or none where the part does not stand.

Blanks are space and tab. A line ends with a line feed, or a carriage return and a line feed.
Comments and strings hold no control character but the tab.
-/

namespace DeviceKeys.Toml

/-! ## 1. Space -/

/-- The character is a blank. -/
def isBlank (c : Char) : Bool := c = ' ' || c = '\t'

/-- The characters after the blanks in front. -/
def skipBlanks (s : List Char) : List Char := s.dropWhile isBlank

/-- The character may stand in a comment or a string. -/
def isPlain (c : Char) : Bool := c = '\t' || (' '.toNat ≤ c.toNat && c.toNat ≠ 0x7F)

/-- Reads the end of a line. -/
def newline? : List Char → Option (List Char)
  | '\n' :: r => some r
  | '\r' :: '\n' :: r => some r
  | _ => none

/-- The characters after a comment, if one stands in front. -/
def skipComment : List Char → List Char
  | '#' :: r => r.dropWhile isPlain
  | s => s

/-- Reads blanks and a comment up to the end of the line or the document. -/
def lineEnd? (s : List Char) : Option (List Char) :=
  match skipComment (skipBlanks s) with
  | [] => some []
  | r => newline? r

/-- The characters after blanks, whole comments and ends of lines. -/
def skipLines : Nat → List Char → List Char
  | 0, s => s
  | n + 1, s =>
    let s := skipBlanks s
    match newline? (skipComment s) with
    | some r => skipLines n r
    | none => s

/-- The characters after all blanks, whole comments and ends of lines. -/
def skipSpace (s : List Char) : List Char := skipLines (s.length + 1) s

/-! ## 2. Strings -/

/-- The character with a number, if there is one. -/
def charOf? (n : Nat) : Option Char := if n.isValidChar then some (Char.ofNat n) else none

/-- The value of a hexadecimal digit. -/
def hexValue? (c : Char) : Option Nat :=
  if '0' ≤ c ∧ c ≤ '9' then some (c.toNat - '0'.toNat)
  else if 'A' ≤ c ∧ c ≤ 'F' then some (c.toNat - 'A'.toNat + 10)
  else if 'a' ≤ c ∧ c ≤ 'f' then some (c.toNat - 'a'.toNat + 10)
  else none

/-- Reads a number of exactly so many hexadecimal digits. -/
def hexNumber? : Nat → Nat → List Char → Option (Nat × List Char)
  | 0, v, s => some (v, s)
  | n + 1, v, c :: r => (hexValue? c).bind fun d => hexNumber? n (v * 16 + d) r
  | _ + 1, _, [] => none

/-- Reads an escape from the character after its backslash. -/
def escape? : List Char → Option (Char × List Char)
  | 'b' :: r => some (Char.ofNat 0x08, r)
  | 'f' :: r => some (Char.ofNat 0x0C, r)
  | 'n' :: r => some ('\n', r)
  | 'r' :: r => some ('\r', r)
  | 't' :: r => some ('\t', r)
  | '"' :: r => some ('"', r)
  | '\\' :: r => some ('\\', r)
  | 'u' :: r => (hexNumber? 4 0 r).bind fun (v, r) => (charOf? v).map (·, r)
  | 'U' :: r => (hexNumber? 8 0 r).bind fun (v, r) => (charOf? v).map (·, r)
  | _ => none

/-- Puts a character in front of a string that is read after it. -/
def consText (c : Char) (r : Option (List Char × List Char)) : Option (List Char × List Char) :=
  r.map fun p => (c :: p.1, p.2)

/-- Reads a string up to the closing double quote. -/
def basicBody : Nat → List Char → Option (List Char × List Char)
  | _, '"' :: r => some ([], r)
  | n + 1, '\\' :: r => (escape? r).bind fun (c, r) => consText c (basicBody n r)
  | n + 1, c :: r => if isPlain c then consText c (basicBody n r) else none
  | _, _ => none

/-- Reads a string up to the closing single quote. -/
def literalBody : List Char → Option (List Char × List Char)
  | '\'' :: r => some ([], r)
  | c :: r => if isPlain c then consText c (literalBody r) else none
  | [] => none

/-- The characters after all blanks and ends of lines. -/
def skipEmptyLines : List Char → List Char
  | '\r' :: '\n' :: r => skipEmptyLines r
  | c :: r => if isBlank c || c = '\n' then skipEmptyLines r else c :: r
  | [] => []

/-- The characters after an end of line and all blanks and ends of lines behind it, if a backslash
    that stands before `s` swallows them. -/
def swallowed? (s : List Char) : Option (List Char) :=
  (newline? (skipBlanks s)).map skipEmptyLines

/-- The quotes in front: how many of the closing three, and those of the text before them. A run of
    three to five quotes ends the string. -/
def closingRun? (quote : Char) (s : List Char) : Option (Nat × List Char) :=
  let run := (s.takeWhile (· = quote)).length
  if run < 3 then none else some (min run 5 - 3, s.drop (min run 5))

/-- Reads a string over several lines up to the three closing quotes; escapes count if they are
    double ones. -/
def linesBody (quote : Char) : Nat → List Char → Option (List Char × List Char)
  | 0, _ => none
  | n + 1, s =>
    match closingRun? quote s with
    | some (extra, r) => some (List.replicate extra quote, r)
    | none =>
      match newline? s with
      | some r => consText '\n' (linesBody quote n r)
      | none =>
        match s with
        | [] => none
        | c :: r =>
          if c = '\\' && quote = '"' then
            match swallowed? r with
            | some r => linesBody quote n r
            | none => (escape? r).bind fun (c, r) => consText c (linesBody quote n r)
          else if isPlain c then consText c (linesBody quote n r)
          else none

/-- Reads a string over several lines from the character after its opening quotes; an end of line
    there is no part of it. -/
def linesString? (quote : Char) (s : List Char) : Option (List Char × List Char) :=
  let s := (newline? s).getD s
  linesBody quote (s.length + 1) s

/-- Reads a string of one line. -/
def lineString? : List Char → Option (List Char × List Char)
  | '"' :: r => basicBody (r.length + 1) r
  | '\'' :: r => literalBody r
  | _ => none

/-- Reads a string. -/
def string? (s : List Char) : Option (String × List Char) :=
  let read :=
    match s with
    | '"' :: '"' :: '"' :: r => linesString? '"' r
    | '\'' :: '\'' :: '\'' :: r => linesString? '\'' r
    | s => lineString? s
  read.map fun p => (String.ofList p.1, p.2)

/-! ## 3. Keys -/

/-- The character may stand in a key without quotes. -/
def isKeyChar (c : Char) : Bool := c.isAlphanum || c = '-' || c = '_'

/-- Reads one part of a key. -/
def keyPart? (s : List Char) : Option (String × List Char) :=
  match s with
  | c :: _ =>
    if c = '"' || c = '\'' then (lineString? s).map fun p => (String.ofList p.1, p.2)
    else
      let part := s.takeWhile isKeyChar
      if part.isEmpty then none else some (String.ofList part, s.dropWhile isKeyChar)
  | [] => none

/-- The greatest depth of nested brackets, and of the parts of a key. -/
def depthLimit : Nat := 79

/-- Reads the parts of a key, separated by points. -/
def keyParts : Nat → List Char → Option (List String × List Char)
  | 0, _ => none
  | n + 1, s =>
    (keyPart? (skipBlanks s)).bind fun (k, r) =>
      match skipBlanks r with
      | '.' :: r => (keyParts n r).map fun p => (k :: p.1, p.2)
      | r => some ([k], r)

/-- Reads a key with the blanks around it. -/
def key? (s : List Char) : Option (List String × List Char) :=
  (keyParts (s.length + 1) s).bind fun (key, r) =>
    if key.length ≤ depthLimit then some (key, r) else none

/-! ## 4. Numbers -/

/-- The character is a decimal digit. -/
def isDigit (c : Char) : Bool := '0' ≤ c && c ≤ '9'

/-- Reads digits, of which any two may have one underscore between them. -/
def digitRun (digit : Char → Bool) : List Char → Option (List Char × List Char)
  | [] => some ([], [])
  | '_' :: c :: r => if digit c then consText c (digitRun digit r) else none
  | c :: r =>
    if digit c then consText c (digitRun digit r) else if c = '_' then none else some ([], c :: r)

/-- Reads one digit or more. -/
def digits? (digit : Char → Bool) (s : List Char) : Option (List Char × List Char) :=
  match s with
  | c :: r => if digit c then consText c (digitRun digit r) else none
  | [] => none

/-- Reads a sign, if one stands in front; true for a minus. -/
def sign : List Char → Bool × List Char
  | '-' :: r => (true, r)
  | '+' :: r => (false, r)
  | s => (false, s)

/-- Reads a decimal integer without its sign: no zero stands in front of other digits. -/
def decimal? (s : List Char) : Option (List Char × List Char) :=
  match s with
  | '0' :: r => some (['0'], r)
  | s => digits? isDigit s

/-- The number that digits spell. -/
def numberOf (base : Nat) (ds : List Char) : Nat :=
  ds.foldl (fun n d => n * base + (hexValue? d).getD 0) 0

/-- The least number too large for an integer; with a minus it still fits. -/
def magnitudeLimit : Nat := 9223372036854775808

/-- Reads an integer, which fits 64 bits with its sign. -/
def integer? (s : List Char) : Option (List Char) :=
  let based (base : Nat) (digit : Char → Bool) (r : List Char) : Option (List Char) :=
    (digits? digit r).bind fun (ds, r) => if numberOf base ds < magnitudeLimit then some r else none
  match s with
  | '0' :: 'x' :: r => based 16 (fun c => (hexValue? c).isSome) r
  | '0' :: 'o' :: r => based 8 (fun c => '0' ≤ c && c ≤ '7') r
  | '0' :: 'b' :: r => based 2 (fun c => c = '0' || c = '1') r
  | s =>
    let (negative, r) := sign s
    (decimal? r).bind fun (ds, r) =>
      let n := numberOf 10 ds
      if n < magnitudeLimit || (negative && n = magnitudeLimit) then some r else none

/-- A decimal number is too large for a double. -/
def isTooLarge (digits : List Char) (exponent : Int) : Bool :=
  let n := numberOf 10 digits
  if n = 0 then false
  else if 400 < exponent + (digits.dropWhile (· = '0')).length then true
  else if exponent < -(10 * digits.length + 400 : Int) then false
  else if 0 ≤ exponent then (Binary64.ofRatio (n * pow10 exponent.toNat) 1).isNone
  else (Binary64.ofRatio n (pow10 (-exponent).toNat)).isNone

/-- Reads the exponent of a float, if one stands in front. -/
def exponent? (s : List Char) : Option (Int × List Char) :=
  match s with
  | c :: r =>
    if c = 'e' || c = 'E' then
      let (negative, r) := sign r
      (digits? isDigit r).map fun (ds, r) =>
        ((if negative then -(numberOf 10 ds : Int) else numberOf 10 ds), r)
    else some (0, s)
  | [] => some (0, [])

/-- Reads the fraction of a float, if one stands in front. -/
def fraction? (s : List Char) : Option (List Char × List Char) :=
  match s with
  | '.' :: r => digits? isDigit r
  | s => some ([], s)

/-- Reads a float, which has a fraction or an exponent, or is infinite or no number. -/
def float? (s : List Char) : Option (List Char) :=
  let (negative, r) := sign s
  match r with
  | 'i' :: 'n' :: 'f' :: r => some r
  | 'n' :: 'a' :: 'n' :: r => some r
  | _ =>
    (decimal? r).bind fun (whole, r₀) =>
      (fraction? r₀).bind fun (part, r₁) =>
        (exponent? r₁).bind fun (e, r₂) =>
          if r₂.length = r₀.length then none
          else if !negative && isTooLarge (whole ++ part) (e - part.length) then none
          else some r₂

/-! ## 5. Dates and times -/

/-- Reads a number of exactly so many digits. -/
def fixed? : Nat → Nat → List Char → Option (Nat × List Char)
  | 0, v, s => some (v, s)
  | n + 1, v, c :: r => if isDigit c then fixed? n (v * 10 + (c.toNat - '0'.toNat)) r else none
  | _ + 1, _, [] => none

/-- Reads a character. -/
def char? (c : Char) : List Char → Option (List Char)
  | [] => none
  | d :: r => if c = d then some r else none

/-- The count of days of a month. -/
def daysOf (year month : Nat) : Nat :=
  if month = 2 then
    if year % 4 = 0 ∧ (year % 100 ≠ 0 ∨ year % 400 = 0) then 29 else 28
  else if month = 4 ∨ month = 6 ∨ month = 9 ∨ month = 11 then 30
  else 31

/-- Reads a date. -/
def date? (s : List Char) : Option (List Char) := do
  let (year, r) ← fixed? 4 0 s
  let (month, r) ← fixed? 2 0 (← char? '-' r)
  let (day, r) ← fixed? 2 0 (← char? '-' r)
  if 1 ≤ month ∧ month ≤ 12 ∧ 1 ≤ day ∧ day ≤ daysOf year month then some r else none

/-- Reads hours and minutes. -/
def hourMinute? (s : List Char) : Option (List Char) := do
  let (hour, r) ← fixed? 2 0 s
  let (minute, r) ← fixed? 2 0 (← char? ':' r)
  if hour ≤ 23 ∧ minute ≤ 59 then some r else none

/-- Reads a time: seconds are needed, and may have a fraction. -/
def time? (s : List Char) : Option (List Char) := do
  let r ← hourMinute? s
  let (second, r) ← fixed? 2 0 (← char? ':' r)
  if 60 < second then none
  else
    match r with
    | '.' :: r =>
      if (r.takeWhile isDigit).isEmpty then none else some (r.dropWhile isDigit)
    | r => some r

/-- Reads the offset of a time, if one stands in front. -/
def offset? (s : List Char) : Option (List Char) :=
  match s with
  | c :: r =>
    if c = 'Z' || c = 'z' then some r
    else if c = '+' || c = '-' then hourMinute? r
    else some s
  | [] => some []

/-- Two digits and a colon stand in front, so that a time must follow. -/
def startsTime (s : List Char) : Bool :=
  match fixed? 2 0 s with
  | some (_, ':' :: _) => true
  | _ => false

/-- Reads a date, a time, or both. -/
def moment? (s : List Char) : Option (List Char) :=
  match date? s with
  | some r =>
    match r with
    | c :: r' =>
      if (c = 'T' || c = 't' || c = ' ') && startsTime r' then (time? r').bind offset? else some r
    | [] => some []
  | none => time? s

end DeviceKeys.Toml
