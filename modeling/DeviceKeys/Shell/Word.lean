/-! # Words and commands of a shell script

A script is read byte by byte, and a byte is held as the character with its number (`Chars`).

* A word is a list of parts (`Part`): plain text, the value of a parameter, what commands print, or
  the value of an arithmetic expression. Each part remembers whether it stood between quotes; an
  empty quoted text marks a word that is there although it is empty.
* A command (`Command`) is a simple one or is built from others.
* The text that `<<` takes from the lines below is not part of the command but known by a number:
  the command is read before that text is.
-/

namespace DeviceKeys.Shell

/-- Bytes, each held as the character with its number. -/
abbrev Chars := List Char

/-- What a substitution makes of a parameter. With a colon an empty value counts as none. -/
inductive Use where
  | value
  | length
  | orElse (colon : Bool)
  | orAssign (colon : Bool)
  | orFail (colon : Bool)
  | instead (colon : Bool)
  | cutFront (longest : Bool)
  | cutBack (longest : Bool)
  | unknown
  deriving DecidableEq, Repr

/-- How a redirection opens its file: to read, to write from the start, to write over a file that
    must not be spared, to write at the end, or to read and write. -/
inductive Opening where
  | read
  | write
  | clobber
  | append
  | both
  deriving DecidableEq, Repr

mutual

/-- A part of a word. -/
inductive Part where
  | text (s : Chars) (quoted : Bool)
  | parameter (name : Chars) (use : Use) (operand : List Part) (quoted : Bool)
  | output (command : Command) (quoted : Bool)
  | arithmetic (expression : List Part) (quoted : Bool)

/-- A redirection of a stream: to a file, to where another stream leads, or to a text. -/
inductive Redirect where
  | file (stream : Nat) (opening : Opening) (target : List Part)
  | join (stream : Nat) (target : List Part)
  | here (stream number : Nat)

/-- A command. Some carry the number of their line. -/
inductive Command where
  | nothing
  | simple (line : Nat) (assignments : List (Chars × List Part)) (words : List (List Part))
      (redirects : List Redirect)
  | pipeline (stages : List Command)
  | sequence (first second : Command)
  | both (first second : Command)
  | either (first second : Command)
  | negated (c : Command)
  | background (c : Command)
  | grouped (line : Nat) (body : Command) (redirects : List Redirect)
  | subshell (line : Nat) (body : Command) (redirects : List Redirect)
  | choice (test yes no : Command)
  | loop (whileFails : Bool) (test body : Command)
  | each (line : Nat) (name : Chars) (values : List (List Part)) (body : Command)
  | select (line : Nat) (subject : List Part) (clauses : List (List (List Part) × Command))
  | define (line : Nat) (name : Chars) (body : Command)

end

/-- A word. -/
abbrev Word := List Part

instance : Inhabited Command := ⟨.nothing⟩
instance : Inhabited Part := ⟨.text [] false⟩

namespace Part

/-- The part is quoted text. -/
def isQuotedText : Part → Bool
  | .text _ quoted => quoted
  | _ => false

/-- Puts a part in front of others; texts of the same kind become one. -/
def cons (p : Part) (w : Word) : Word :=
  match p, w with
  | .text s q, .text t q' :: w =>
    if q = q' then .text (s ++ t) q :: w
    else if s.isEmpty && !q then .text t q' :: w
    else .text s q :: .text t q' :: w
  | p, w => p :: w

end Part

namespace Word

/-- The text of a word that is nothing but plain text without quotes. -/
def plain? : Word → Option Chars
  | [.text s false] => some s
  | _ => none

/-- A part of the word was quoted. -/
def hasQuotes (w : Word) : Bool := w.any Part.isQuotedText

end Word

/-! ## 1. Names -/

/-- The character may start a name. -/
def isNameStart (c : Char) : Bool := c.isAlpha || c = '_'

/-- The character may stand in a name. -/
def isNameChar (c : Char) : Bool := c.isAlphanum || c = '_'

/-- The text is a name. -/
def isName (s : Chars) : Bool := (s.head?.any isNameStart) && s.all isNameChar

/-- The character is the name of a parameter that the shell sets. -/
def isSpecial (c : Char) : Bool :=
  c = '#' || c = '$' || c = '?' || c = '@' || c = '*' || c = '!' || c = '-'

namespace Word

/-- Splits a word into the name in front of its first equals sign and what stands behind. -/
def assignment? : Word → Option (Chars × Word)
  | .text s false :: w =>
    let name := s.takeWhile (· ≠ '=')
    if isName name && name.length < s.length then
      some (name, Part.cons (.text (s.drop (name.length + 1)) false) w)
    else none
  | _ => none

end Word

end DeviceKeys.Shell
