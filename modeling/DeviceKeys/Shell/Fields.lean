import DeviceKeys.FileSystem.Listing
import DeviceKeys.Shell.Machine
import DeviceKeys.Shell.Pattern

/-! # Fields

Expansion turns a word into glyphs: characters that remember where they came from. `Fields.split`
cuts glyphs into fields at the separators in values that were not quoted, and `Fields.paths` puts
the paths that a field describes in its place.

* Separators that are white space count once however many there are; any other separator ends a
  field by itself.
* A name that starts with a point is only described by a pattern that starts with one.
* A field that describes no path stands for itself.
-/

namespace DeviceKeys.Shell

/-- A character of an expanded word: written without quotes, of a value without quotes, or quoted.
    An empty quoted text leaves `empty`, and between the arguments of `$@` stands a `border`. -/
inductive Glyph where
  | plain (c : Char)
  | value (c : Char)
  | quoted (c : Char)
  | empty
  | border
  deriving DecidableEq, Repr

namespace Glyph

/-- The character of a glyph. -/
def char? : Glyph → Option Char
  | .plain c => some c
  | .value c => some c
  | .quoted c => some c
  | _ => none

/-- The text of glyphs. -/
def text (g : List Glyph) : Chars := g.filterMap char?

/-- The characters of glyphs, each with a mark that says whether it was quoted. -/
def marked (g : List Glyph) : List (Char × Bool) :=
  g.filterMap fun
    | .plain c => some (c, false)
    | .value c => some (c, false)
    | .quoted c => some (c, true)
    | _ => none

/-- The text of glyphs with something between the arguments of `$@`. -/
def joined (between : Chars) (g : List Glyph) : Chars :=
  g.flatMap fun
    | .border => between
    | g => g.char?.toList

end Glyph

namespace Fields

/-! ## 1. Splitting -/

/-- The character is white space that may separate. -/
def isWhite (c : Char) : Bool := c = ' ' || c = '\t' || c = '\n'

/-- Cuts glyphs into fields. `here` is the field begun, the last glyph first; `after` says that white
    space has just ended a field, so that one other separator belongs to the same gap. -/
def splitFrom (separators : Chars) : List Glyph → Bool → List Glyph → List (List Glyph)
  | here, _, [] => if here.isEmpty then [] else [here.reverse]
  | here, after, g :: r =>
    let next : List (List Glyph) := if here.isEmpty then [] else [here.reverse]
    match g with
    | .border => next ++ splitFrom separators [] false r
    | .value c =>
      if separators.contains c then
        if isWhite c then next ++ splitFrom separators [] (after || !here.isEmpty) r
        else if here.isEmpty && !after then [] :: splitFrom separators [] false r
        else next ++ splitFrom separators [] false r
      else splitFrom separators (g :: here) false r
    | g => splitFrom separators (g :: here) false r

/-- Cuts glyphs into fields. -/
def split (separators : Chars) (g : List Glyph) : List (List Glyph) := splitFrom separators [] false g

/-! ## 2. Paths -/

/-- Cuts characters at the slashes. -/
def components : List (Char × Bool) → List (List (Char × Bool))
  | [] => [[]]
  | (c, q) :: r =>
    if c = '/' then [] :: components r
    else
      match components r with
      | [] => [[(c, q)]]
      | p :: ps => ((c, q) :: p) :: ps

/-- The names in a directory, given by its path, that a pattern describes. -/
def described (fs : FileSystem) (dir : Chars) (p : Pattern) : List Chars :=
  let path := toPath (if dir.isEmpty then ['.'] else dir)
  match fs.find path with
  | .error _ => []
  | .ok l =>
    if fs.isDirAt l then
      let hidden := p.head? = some (.exact '.')
      let names := (if hidden then [['.'], ['.', '.']] else []) ++ (fs.names l).map ofBytes
      names.filter fun name => (hidden || name.head? ≠ some '.') && p.fits name
    else []

/-- The paths that components describe behind a path that is already known. -/
def walk (fs : FileSystem) : Chars → List (List (Char × Bool)) → List Chars
  | done, [] => [done]
  | done, c :: rest =>
    let p := Pattern.ofMarked c
    let names := if p.isOpen then described fs done p else [p.exactText]
    names.flatMap fun name =>
      if rest.isEmpty then
        let path := done ++ name
        if (fs.linkStat? (toPath path)).isSome then [path] else []
      else walk fs (done ++ name ++ ['/']) rest

/-- A pattern stands in the characters. -/
def isPattern (g : List (Char × Bool)) : Bool :=
  g.any fun (c, quoted) => !quoted && (c = '*' || c = '?' || c = '[')

/-- The texts come in the order of their characters. -/
def inOrder (a b : Chars) : Bool := !decide (b < a)

/-- What stands in the place of a field. -/
def paths (fs : FileSystem) (field : List Glyph) : List Chars :=
  let marked := Glyph.marked field
  if isPattern marked then
    match walk fs [] (components marked) with
    | [] => [Glyph.text field]
    | found => found.mergeSort inOrder
  else [Glyph.text field]

end Fields

end DeviceKeys.Shell
