import DeviceKeys.Text.Utf8

/-! # Paths

A path is any byte sequence (`Path`). Two readings of it are kept apart:

* the **lexical** one, which looks at the bytes alone: `join`, `parent?`, `ancestors`. Repeated
  slashes and the component `.` carry no meaning there, `..` is a component like any other;
* the **walk** that the file system takes: a list of `Path.Step`s, in which a slash at the end
  demands a directory (`steps`).
-/

namespace DeviceKeys

/-- A path. -/
structure Path where
  bytes : Bytes
  deriving DecidableEq, Repr

namespace Path

/-- The byte between components. -/
def slash : UInt8 := 0x2F

/-- The byte of the component that changes nothing. -/
def dot : UInt8 := 0x2E

/-- The path a text spells. -/
def ofString (s : String) : Path := ⟨Utf8.ofString s⟩

/-- The text shown for a path. -/
def display (p : Path) : String := Utf8.display p.bytes

/-- The path starts at the top. -/
def isAbsolute (p : Path) : Bool := p.bytes.head? = some slash

/-- The path ends with a slash. -/
def endsInSlash (p : Path) : Bool := p.bytes.getLast? = some slash

/-! ## 1. The lexical reading -/

/-- The path `p` as seen from `base`: an absolute path stands for itself. -/
def join (base p : Path) : Path :=
  if p.isAbsolute then p
  else if base.bytes = [] ∨ base.endsInSlash then ⟨base.bytes ++ p.bytes⟩
  else ⟨base.bytes ++ slash :: p.bytes⟩

/-- The parts between slashes; there is always at least one. -/
def splitSlash : Bytes → List Bytes
  | [] => [[]]
  | b :: r =>
    if b = slash then [] :: splitSlash r
    else
      match splitSlash r with
      | [] => [[b]]
      | p :: ps => (b :: p) :: ps

/-- Parts with a slash between them. -/
def joinSlash : List Bytes → Bytes
  | [] => []
  | [p] => p
  | p :: q :: ps => p ++ slash :: joinSlash (q :: ps)

/-- The component in front that stays when all others are taken away: the slash of an absolute
    path, or a leading dot. -/
def anchor (p : Path) : Bytes :=
  if p.isAbsolute then [slash]
  else if p.bytes = [dot] ∨ p.bytes.take 2 = [dot, slash] then [dot]
  else []

/-- The part means nothing to the lexical reading. -/
def isIdle (part : Bytes) : Bool := part = [] || part = [dot]

/-- The path without its last component. An absolute path without components has none. -/
def parent? (p : Path) : Option Path :=
  match ((splitSlash (p.bytes.drop p.anchor.length)).reverse.dropWhile isIdle) with
  | _ :: before => some ⟨p.anchor ++ joinSlash (before.dropWhile isIdle).reverse⟩
  | [] => if p.anchor = [dot] then some ⟨[]⟩ else none

/-- The path and what remains when components are taken away one by one. -/
def ancestorsUpTo : Nat → Path → List Path
  | 0, p => [p]
  | n + 1, p =>
    match p.parent? with
    | some q => p :: ancestorsUpTo n q
    | none => [p]

/-- The path, its parent, the parent of that, and so on. -/
def ancestors (p : Path) : List Path := ancestorsUpTo (p.bytes.length + 1) p

/-! ## 2. The walk -/

/-- The name of a directory entry. -/
abbrev Name := Bytes

/-- The bytes can name an entry: they are one component, and not one of the two that move. -/
def IsName (name : Name) : Prop :=
  name ≠ [] ∧ name ≠ [dot] ∧ name ≠ [dot, dot] ∧ slash ∉ name

instance (name : Name) : Decidable (IsName name) := inferInstanceAs (Decidable (_ ∧ _ ∧ _ ∧ _))

/-- One step of a walk. -/
inductive Step where
  | here
  | up
  | down (name : Name)
  deriving DecidableEq, Repr

/-- The step of a component; nothing stands between repeated slashes. -/
def stepOf (part : Bytes) : Option Step :=
  if part = [] then none
  else if part = [dot] then some .here
  else if part = [dot, dot] then some .up
  else some (.down part)

/-- The steps of the components. -/
def components (p : Path) : List Step := (splitSlash p.bytes).filterMap stepOf

/-- The steps of a walk to what the path names. -/
def steps (p : Path) : List Step := p.components ++ if p.endsInSlash then [.here] else []

/-- The absolute path of the names from the top down. -/
def ofNames (names : List Name) : Path := ⟨slash :: joinSlash names⟩

end Path

end DeviceKeys
