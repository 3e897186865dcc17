import DeviceKeys.Decimal.Quantity
import DeviceKeys.Shell.Builtin.Basic
import DeviceKeys.Shell.Search

/-! # Commands on the surroundings of the shell

`cd` and `pwd` keep the path by which the working directory was reached (`Process.logical`), so that
a step up undoes a step through a link. `umask` sets the permission bits that new files lack. `type`
and `command` tell what a name of a command leads to.
-/

namespace DeviceKeys.Shell

namespace Builtin

open Act

/-! ## 1. The working directory -/

/-- The parts of a path that count: a step up takes the part before away. -/
def settled (parts : List Bytes) : List Bytes :=
  (parts.foldl (fun done part =>
    if part = [] || part = [Path.dot] then done
    else if part = [Path.dot, Path.dot] then done.drop 1
    else part :: done) []).reverse

/-- The path by which a directory is reached from a path without links looked at. -/
def logicalPath (logical dest : Chars) : Chars :=
  let whole := (toPath logical).join (toPath dest)
  ofBytes (Path.ofNames (settled (Path.splitSlash whole.bytes))).bytes

/-- The working directory becomes a location, reached by a path. -/
def moveTo (l : Location) (path : Chars) : Act Unit := do
  let old := (← process).logical
  assign "OLDPWD".toList old true
  assign "PWD".toList path true
  change fun p => { p with dir := l, logical := path }

/-- Changes the working directory. False when the path leads to none. -/
def enter (physical : Bool) (dest : Chars) : Act Bool := do
  let fs ← fs
  let p ← process
  let path := if physical then dest else logicalPath p.logical dest
  match fs.find (toPath path) with
  | .ok l =>
    if fs.isDirAt l then
      moveTo l (if physical then ofBytes (FileSystem.pathTo l).bytes else path)
      return true
    else return false
  | .error _ => return false

/-- The directory of a list in which a path leads to a directory, and whether it is told. -/
def listed (fs : FileSystem) (p : Process) (dest : Chars) : Option (Chars × Bool) :=
  let relative := dest.head? ≠ some '/' && dest ≠ ['.'] && dest ≠ ['.', '.'] &&
    !"./".toList.isPrefixOf dest && !"../".toList.isPrefixOf dest
  if relative then
    (Search.parts (valueOf p "CDPATH")).findSome? fun dir =>
      let path := Search.inDir dir dest
      if fs.isDir (toPath path) then some (path, !dir.isEmpty) else none
  else none

/-- Changes the working directory. -/
def cd : Builtin := fun _ args => do
  let (os, args) ← options "LP" args
  let physical := (os.getLast?.map (·.1)) = some 'P'
  let p ← process
  let back := args.head? = some ['-']
  let dest :=
    match args with
    | [] => valueOf p "HOME"
    | a :: _ => if back then valueOf p "OLDPWD" else a
  let near := if dest.isEmpty then ['.'] else dest
  let (target, told) := (listed (← fs) p near).getD (near, false)
  if ← enter physical target then
    if back || told then out (lineOf (← process).logical)
    return 0
  else fault ("can't cd to ".toList ++ dest)

/-- Prints the working directory. -/
def pwd : Builtin := fun _ args => do
  let (os, _) ← options "LP" args
  let p ← process
  let physical := (os.getLast?.map (·.1)) = some 'P'
  out (lineOf (if physical then ofBytes (FileSystem.pathTo p.dir).bytes else p.logical))
  return 0

/-! ## 2. Permissions of new files -/

/-- The bits of a kind of permission for all who may have it. -/
def permission? : Char → Option Nat
  | 'r' => some 0o444
  | 'w' => some 0o222
  | 'x' => some 0o111
  | 'X' => some 0o111
  | 's' => some 0o6000
  | 't' => some 0o1000
  | _ => none

/-- The bits of all permissions for some who may have them. -/
def owner? : Char → Option Nat
  | 'u' => some 0o4700
  | 'g' => some 0o2070
  | 'o' => some 0o1007
  | 'a' => some 0o7777
  | _ => none

/-- The permission bits after a change in letters, none when it is malformed. `always` says that the
    bits to search a directory may be given by `X`, and `mask` takes bits away from what is given to
    no one in particular. -/
def changedMode? (always : Bool) (mask : Nat) : Nat → Chars → Nat → Option Nat
  | 0, _, _ => none
  | n + 1, s, mode =>
    let owners := s.takeWhile fun c => (owner? c).isSome
    let who := owners.foldl (fun b c => b ||| (owner? c).getD 0) 0
    let rec clauses : Nat → Chars → Nat → Option (Nat × Chars)
      | 0, _, _ => none
      | k + 1, op :: r, mode =>
        if op = '+' || op = '-' || op = '=' then
          let letters := r.takeWhile fun c => (permission? c).isSome
          let copied := r.takeWhile fun c => c = 'u' || c = 'g' || c = 'o'
          let three (shift : Nat) : Nat := (mode >>> shift) &&& 7
          let spread (b : Nat) : Nat := b * 0o111
          let given :=
            match copied with
            | 'u' :: _ => spread (three 6)
            | 'g' :: _ => spread (three 3)
            | 'o' :: _ => spread (three 0)
            | _ =>
              letters.foldl (fun b c =>
                if c = 'X' && !always && mode &&& 0o111 = 0 then b
                else b ||| (permission? c).getD 0) 0
          let all := if owners.isEmpty then 0o7777 - (mask &&& 0o777) else who
          let given := given &&& all
          let next :=
            if op = '+' then mode ||| given
            else if op = '-' then mode - (mode &&& given)
            else (mode - (mode &&& (if owners.isEmpty then 0o777 else who))) ||| given
          let rest := r.drop (if copied.isEmpty then letters.length else 1)
          match rest with
          | [] => some (next, [])
          | ',' :: _ => some (next, rest)
          | rest => clauses k rest next
        else none
      | _ + 1, [], _ => none
    match clauses (s.length + 1) (s.drop owners.length) mode with
    | some (mode, ',' :: r) => changedMode? always mask n r mode
    | some (mode, _) => some mode
    | none => none

/-- The letters for three permission bits. -/
def letters (b : Nat) : Chars :=
  (if b &&& 4 ≠ 0 then ['r'] else []) ++ (if b &&& 2 ≠ 0 then ['w'] else []) ++
    (if b &&& 1 ≠ 0 then ['x'] else [])

/-- Sets the permission bits that new files lack, or shows them. -/
def umask : Builtin := fun _ args => do
  let (os, args) ← options "S" args
  let mask := (← process).mask
  match args with
  | [] =>
    let open_ := 0o777 - mask
    if os.isEmpty then
      out (lineOf (Quantity.digitsOf 4 (Quantity.ofDigits (Nat.toDigits 8 mask))))
    else
      out (lineOf ("u=".toList ++ letters (open_ >>> 6) ++ ",g=".toList ++ letters (open_ >>> 3) ++
        ",o=".toList ++ letters open_))
    return 0
  | a :: _ =>
    if a.head?.any Char.isDigit then
      if a.all fun c => '0' ≤ c && c ≤ '7' then
        change fun p => { p with mask := (Arithmetic.digits 8 0 a).1 &&& 0o777 }
        return 0
      else fault ("Illegal number: ".toList ++ a)
    else
      match changedMode? true 0 (a.length + 1) a (0o777 - mask) with
      | some mode => do
        change fun p => { p with mask := 0o777 - (mode &&& 0o777) }
        return 0
      | none => fault ("Illegal mode: ".toList ++ a)

/-! ## 3. What a name leads to -/

/-- Shows what a name of a command leads to, in words or as a text that leads to the same. -/
def describe (special regular : List String) (words : Bool) (name : Chars) : Act Nat := do
  let p ← process
  let text := String.ofList name
  let say (s : String) : Act Nat := do
    out (lineOf (if words then name ++ s.toList else name))
    return 0
  if Source.reserved.contains text then say " is a shell keyword"
  else
    match p.aliases.lookup name with
    | some other => do
      out (lineOf (if words then name ++ " is an alias for ".toList ++ other
        else "alias ".toList ++ name ++ '=' :: quoted other))
      return 0
    | none =>
      if p.functions.any (·.1 = name) then say " is a shell function"
      else if special.contains text then say " is a special shell builtin"
      else if regular.contains text then say " is a shell builtin"
      else
        let known := p.hashed.any (·.1 = name)
        match ← whereIs name with
        | .ok path => do
          let how := if known then " is a tracked alias for " else " is "
          out (lineOf (if words then name ++ how.toList ++ path else path))
          return 0
        | .error _ => do
          if words then out (lineOf (name ++ ": not found".toList))
          return 127

/-- Remembers where names of commands lead, or shows what is remembered. -/
def hash : Builtin := fun _ args => do
  let (os, names) ← options "rv" args
  if os.any (·.1 = 'r') then
    change fun p => { p with hashed := [] }
    return 0
  else if names.isEmpty then
    out ((← process).hashed.reverse.flatMap fun h => lineOf h.2)
    return 0
  else
    let results ← names.mapM fun name => do
      match ← whereIs name with
      | .ok _ => return 0
      | .error _ => do
        complain (name ++ ": not found".toList)
        return 1
    return results.foldl max 0

/-- Shows a bound on what the shell may use; setting one changes nothing. -/
def ulimit : Builtin := fun _ args => do
  let (os, args) ← options "HSatfdscmlpnvwr" args
  let kind := (os.reverse.find? fun o => o.1 ≠ 'H' && o.1 ≠ 'S').map (·.1)
  if args.isEmpty then
    out (if kind = some 'c' then "0\n".toList else "unlimited\n".toList)
  return 0

end Builtin

end DeviceKeys.Shell
