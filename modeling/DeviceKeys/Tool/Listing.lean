import DeviceKeys.Tool.Reading
import DeviceKeys.Tool.Tree

/-! # Programs that show the file tree

`ls`, `readlink`, `realpath` and `stat`. No file has a time: all show the same one.
-/

namespace DeviceKeys.Tool

open Shell Act

/-! ## 1. Entries -/

/-- The letter for the kind of an entry. -/
def kindLetter : Entry → Char
  | .file _ _ => '-'
  | .dir _ => 'd'
  | .link _ => 'l'

/-- The letters for the permission bits of an entry. -/
def modeLetters (mode : Nat) : Chars :=
  let three (shift : Nat) : Chars :=
    let b := (mode >>> shift) &&& 7
    [if b &&& 4 ≠ 0 then 'r' else '-', if b &&& 2 ≠ 0 then 'w' else '-',
     if b &&& 1 ≠ 0 then 'x' else '-']
  let mark (bit : Nat) (plain lower upper : Char) : Char :=
    if mode &&& bit = 0 then plain else if plain = 'x' then lower else upper
  let settled (s : Chars) (bit : Nat) (lower upper : Char) : Chars :=
    s.dropLast ++ [mark bit (s.getLast?.getD '-') lower upper]
  settled (three 6) 0o4000 's' 'S' ++ settled (three 3) 0o2000 's' 'S' ++
    settled (three 0) 0o1000 't' 'T'

/-- The size of an entry. -/
def sizeOf : Entry → Nat
  | .file _ data => data.length
  | .dir _ => 4096
  | .link t => t.bytes.length

/-- The count of names that an entry at a location has: a directory has one in each that it holds. -/
def linksOf (fs : FileSystem) (l : Location) (e : Entry) : Nat :=
  if e.isDir then 2 + ((fs.names l).filter fun n => fs.isDirAt (n :: l)).length else 1

/-- The blocks that an entry takes. -/
def blocksOf : Entry → Nat
  | .file _ data => (data.length + 4095) / 4096 * 4
  | .dir _ => 4
  | .link _ => 0

/-! ## 2. Listing -/

/-- A name to be listed, with what stands there. -/
structure Listed where
  name : Chars
  entry : Entry
  links : Nat

/-- The names come in order. -/
def namesInOrder (a b : Chars) : Bool := !decide (b < a)

/-- The mark behind a name that tells its kind. -/
def kindMark (g : Given) (x : Listed) : Chars :=
  match x.entry with
  | .dir _ => if g.has 'F' || g.has 'p' then ['/'] else []
  | .link _ => if g.has 'F' && !g.has 'l' then ['@'] else []
  | .file mode _ => if g.has 'F' && mode &&& 0o111 ≠ 0 then ['*'] else []

/-- The lines for names. -/
def listLines (g : Given) (xs : List Listed) : Chars :=
  if g.has 'l' then
    let width (f : Listed → Nat) : Nat := (xs.map fun x => (shown (f x)).length).foldl max 0
    let sizes := width fun x => sizeOf x.entry
    let counts := width fun x => x.links
    xs.flatMap fun x =>
      let arrow := match x.entry with
        | .link t => " -> ".toList ++ ofBytes t.bytes
        | _ => []
      lineOf (kindLetter x.entry :: modeLetters (modeAt x.entry) ++ [' '] ++
        rightAligned counts (shown x.links) ++
        (if g.has 'g' then [] else " root".toList) ++
        (if g.has 'o' || g.has 'G' then [] else " root".toList) ++ ' ' ::
        rightAligned sizes (shown (sizeOf x.entry)) ++ " Jan  1 00:00 ".toList ++ x.name ++
        kindMark g x ++ arrow)
  else if g.has 'm' then
    if xs.isEmpty then []
    else lineOf (List.intercalate ", ".toList (xs.map fun x => x.name ++ kindMark g x))
  else
    xs.flatMap fun x =>
      lineOf ((if g.has 's' then shown (blocksOf x.entry) ++ [' '] else []) ++ x.name ++
        kindMark g x)

/-- The order in which names are listed. -/
def ordered (g : Given) (xs : List Listed) : List Listed :=
  let byName := xs.mergeSort fun a b => namesInOrder a.name b.name
  let sorted :=
    if g.has 'U' || g.has 'f' then xs
    else if g.has 'S' then byName.mergeSort fun a b => sizeOf b.entry ≤ sizeOf a.entry
    else byName
  if g.has 'r' then sorted.reverse else sorted

/-- What a directory holds for a listing. -/
def held (g : Given) (fs : FileSystem) (l : Location) : List Listed :=
  let all := g.has 'a' || g.has 'f'
  let dots : List Listed :=
    if all then
      [⟨['.'], .dir 0o755, linksOf fs l (.dir 0)⟩,
       ⟨['.', '.'], .dir 0o755, linksOf fs l.tail (.dir 0)⟩]
    else []
  dots ++ (fs.names l).filterMap fun name =>
    let hidden := name.head? = some Path.dot
    if hidden && !(all || g.has 'A') then none
    else (fs.get? (name :: l)).map fun e => ⟨ofBytes name, e, linksOf fs (name :: l) e⟩

/-- Lists a directory, and those in it if that is asked for. -/
def listDir (g : Given) : Nat → Bool → Bool → Chars → Location → Act Unit
  | 0, _, _, _, _ => return
  | n + 1, titled, first, path, l => do
    let fs ← fs
    let xs := ordered g (held g fs l)
    if titled then put ((if first then [] else ['\n']) ++ path ++ ":\n".toList)
    if g.has 'l' || g.has 's' then
      put (lineOf ("total ".toList ++ shown ((xs.map fun x => blocksOf x.entry).foldl (· + ·) 0)))
    put (listLines g xs)
    if g.has 'R' then
      xs.forM fun x => do
        if x.entry.isDir && x.name ≠ ['.'] && x.name ≠ ['.', '.'] then
          listDir g n true false (within path x.name) (toBytes x.name :: l)

/-- Lists files and directories. -/
def ls : Tool := fun _ args => do
  let g ← options (words [('a', "all"), ('A', "almost-all"), ('d', "directory"), ('r', "reverse"),
    ('R', "recursive"), ('F', "classify"), ('S', ""), ('t', ""), ('U', ""), ('f', ""), ('p', ""),
    ('1', ""), ('C', ""), ('x', ""), ('m', ""), ('s', "size"), ('h', "human-readable"), ('n', ""),
    ('L', "dereference"), ('H', ""), ('q', ""), ('N', "literal"), ('b', ""), ('B', ""), ('c', ""),
    ('u', ""), ('v', ""), ('X', ""), ('k', "")] ++
    [⟨'l', "", .nothing⟩, ⟨'g', "", .nothing⟩, ⟨'o', "", .nothing⟩, ⟨'G', "no-group", .nothing⟩,
     ⟨'y', "color", .optional⟩, ⟨'y', "format", .value⟩, ⟨'y', "sort", .value⟩]) true 2 args
  let g := if g.has 'g' || g.has 'o' || g.has 'n' then
    { g with options := ('l', []) :: g.options } else g
  let operands := if g.operands.isEmpty then [['.']] else g.operands
  let found ← operands.mapM fun path => do
    let link := ((← fs).linkStat? (toPath path)).any fun e =>
      match e with
      | .link _ => true
      | _ => false
    let follow := !(g.has 'd' || (link && (g.has 'l' || g.has 'F') && !g.has 'L'))
    let l ← located follow path
    let l ←
      match l with
      | .error .noEntry => located false path
      | l => pure l
    match l with
    | .ok l => return some (path, l)
    | .error e => do
      let _ ← failed "cannot access " path e
      return none
  let fs ← fs
  let present := found.filterMap id
  let (dirs, files) := present.partition fun (_, l) => fs.isDirAt l && !g.has 'd'
  let xs := files.filterMap fun (path, l) => (fs.get? l).map fun e => Listed.mk path e (linksOf fs l e)
  put (listLines g (ordered g xs))
  let names := dirs.map (·.1)
  let sorted := ordered g (names.map fun n => ⟨n, .dir 0, 0⟩)
  let titled := 1 < operands.length || g.has 'R'
  let rec go : Bool → List Chars → Act Unit
    | _, [] => return
    | first, path :: rest => do
      match dirs.lookup path with
      | some l => listDir g treeDepth titled first path l
      | none => return
      go false rest
  go files.isEmpty (sorted.map (·.name))
  return if found.all Option.isSome then 0 else 2

/-! ## 3. Paths -/

/-- The path without links that a path leads to. The last `missing` components may be missing: 0 for
    none, 1 for the last, 2 for any. -/
def resolvedPath (missing : Nat) (path : Chars) : Act (Except IoFault Chars) := do
  let text (l : Location) : Chars := ofBytes (FileSystem.pathTo l).bytes
  match ← target true path with
  | .ok (.found l) => return .ok (text l)
  | .ok (.missing dir name) =>
    if missing = 0 then return .error .noEntry else return .ok (text (name :: dir))
  | .error e =>
    if missing = 2 && (e = .noEntry || e = .notDirectory) then
      let bare := withoutSlashes path
      match ← target true (holderOf bare) with
      | .ok (.found l) => return .ok (text (toBytes (lastComponent bare) :: l))
      | _ => return .ok (Builtin.logicalPath (text (← process).dir) path)
    else return .error e

/-- Shows where links lead. -/
def readlink : Tool := fun _ args => do
  let g ← options (words [('f', "canonicalize"), ('e', "canonicalize-existing"),
    ('m', "canonicalize-missing"), ('n', "no-newline"), ('q', "quiet"), ('s', "silent"),
    ('v', "verbose"), ('z', "zero")]) true 1 args
  if g.operands.isEmpty then misuse 1 "missing operand".toList
  let ending : Chars := if g.has 'n' && g.operands.length = 1 then [] else ['\n']
  let results ← g.operands.mapM fun path => do
    let found ←
      match g.last? "fem" with
      | some 'f' => resolvedPath 1 path
      | some 'e' => resolvedPath 0 path
      | some _ => resolvedPath 2 path
      | none =>
        match (← fs).linkStat? (toPath path) with
        | some (.link t) => pure (.ok (ofBytes t.bytes))
        | some _ => pure (.error .invalidArgument)
        | none => pure (.error .noEntry)
    match found with
    | .ok text => do
      put (text ++ ending)
      return true
    | .error e => do
      if g.has 'v' then warn (nameShown path ++ ": ".toList ++ reason e)
      return false
  return statusOfAll results

/-- Shows paths without links. -/
def realpath : Tool := fun _ args => do
  let g ← options (words [('e', "canonicalize-existing"), ('m', "canonicalize-missing"),
    ('s', "strip"), ('s', "no-symlinks"), ('q', "quiet"), ('z', "zero"), ('L', "logical"),
    ('P', "physical")] ++ valuedWords [('t', "relative-to"), ('b', "relative-base")]) true 1 args
  if g.operands.isEmpty then misuse 1 "missing operand".toList
  let missing := match g.last? "em" with
    | some 'e' => 0
    | some _ => 2
    | none => 1
  let locationOf (path : Chars) : Location :=
    ((Path.splitSlash (toBytes path)).filter (· ≠ [])).reverse
  let results ← g.operands.mapM fun path => do
    let p ← process
    let found ←
      if g.has 's' then
        pure (.ok (Builtin.logicalPath (ofBytes (FileSystem.pathTo p.dir).bytes) path))
      else resolvedPath missing path
    match found with
    | .error e => do
      if !g.has 'q' then warn (nameShown path ++ ": ".toList ++ reason e)
      return false
    | .ok text => do
      match g.value? 't' with
      | none => put (lineOf text)
      | some dir =>
        match ← resolvedPath 2 dir with
        | .ok dir => put (lineOf (relativePath (locationOf dir) (locationOf text)))
        | .error _ => put (lineOf text)
      return true
  return statusOfAll results

/-- The word for the kind of an entry. -/
def kindWord : Entry → String
  | .file _ [] => "regular empty file"
  | .file _ _ => "regular file"
  | .dir _ => "directory"
  | .link _ => "symbolic link"

/-- The text of a format of `stat` for an entry. -/
def statText (path : Chars) (links : Nat) (e : Entry) : Chars → Chars
  | [] => []
  | '%' :: c :: r =>
    let text : Chars :=
      match c with
      | 'n' => path
      | 'N' =>
        match e with
        | .link t => shellQuoted path ++ " -> ".toList ++ shellQuoted (ofBytes t.bytes)
        | _ => shellQuoted path
      | 's' => shown (sizeOf e)
      | 'a' => Nat.toDigits 8 (modeAt e)
      | 'A' => kindLetter e :: modeLetters (modeAt e)
      | 'F' => (kindWord e).toList
      | 'U' => "root".toList
      | 'G' => "root".toList
      | 'u' => ['0']
      | 'g' => ['0']
      | 'h' => shown links
      | 'b' => shown (blocksOf e * 2)
      | 'B' => "512".toList
      | '%' => ['%']
      | c => ['%', c]
    text ++ statText path links e r
  | c :: r => c :: statText path links e r

/-- Shows what is known of files by a format. -/
def stat : Tool := fun _ args => do
  let g ← options (words [('L', "dereference"), ('t', "terse"), ('f', "file-system")] ++
    valuedWords [('c', "format"), ('p', "printf")]) true 1 args
  if g.operands.isEmpty then misuse 1 "missing operand".toList
  let results ← g.operands.mapM fun path => do
    match ← located (g.has 'L') path with
    | .error e => do
      warn ("cannot statx ".toList ++ shellQuoted path ++ ": ".toList ++ reason e)
      return false
    | .ok l =>
      match ← entryAt? l with
      | none => return false
      | some e => do
        let links := linksOf (← fs) l e
        match g.last? "cp" with
        | some 'c' => put (lineOf (statText path links e ((g.value? 'c').getD [])))
        | some _ =>
          let text := (unescaped (path.length + 10000) ((g.value? 'p').getD [])).1
          put (statText path links e text)
        | none =>
          put (lineOf (statText path links e ("  File: %N\n  Size: %s\tBlocks: %b\t%F".toList)))
        return true
  return statusOfAll results

end DeviceKeys.Tool
