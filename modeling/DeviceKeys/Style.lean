import DeviceKeys.Manager
import DeviceKeys.Environment

/-! # Status lines

What a run reports about an operation that succeeded (`Outcome.status?`), and how parts of it are
set off on a terminal (`Style`). A style is written in front of a text and reset behind it; where
the text resets it by itself, it is written again.
-/

namespace DeviceKeys

/-- A way to set off text: the sequence that turns it on. -/
structure Style where
  on : List Char
  deriving DecidableEq

namespace Style

/-- A control sequence with a number. -/
def sequence (number : String) : List Char :=
  Char.ofNat 0x1B :: '[' :: number.toList ++ ['m']

/-- Heavy type. -/
def bold : Style := ⟨sequence "1"⟩

/-- Green type. -/
def green : Style := ⟨sequence "32"⟩

/-- Yellow type. -/
def yellow : Style := ⟨sequence "33"⟩

/-- The sequence that turns every style off. -/
def reset : List Char := sequence "0"

/-- Writes a style again behind every reset; the first number counts the characters of a reset that
    are still to be copied. -/
def resume (style : List Char) : Nat → List Char → List Char
  | _, [] => []
  | 0, c :: r =>
    if reset.isPrefixOf (c :: r) then c :: resume style (reset.length - 1) r
    else c :: resume style 0 r
  | 1, c :: r => c :: style ++ resume style 0 r
  | n + 2, c :: r => c :: resume style (n + 1) r

/-- A text in a style, if styles are in use. -/
def apply (style : Style) (inUse : Bool) (text : String) : String :=
  if inUse then String.ofList (style.on ++ resume style.on 0 text.toList ++ reset) else text

/-- Styles are in use on an output that is no terminal only if the environment forces them. -/
def inUse (env : Environment) : Bool :=
  match env.text? "CLICOLOR_FORCE" with
  | some value => value ≠ "0"
  | none => false

end Style

/-- What is reported about an operation; nothing about one that prints a value. -/
def Outcome.status? (styled : Bool) : Outcome → Option String
  | .generated deviceId manufacturerId replaced =>
    some ((if replaced then "Regenerated" else "Generated") ++ " key for " ++
      Style.bold.apply styled deviceId ++ " (manufacturer " ++ manufacturerId ++ ")")
  | .dumped output devices =>
    some ("Wrote " ++ toString devices ++ " key(s) to " ++
      Style.bold.apply styled output.display)
  | .printed => none

end DeviceKeys
