import DeviceKeys.Shell.Builtin.Place
import DeviceKeys.Tool.Printing

/-! # Programs that change the file tree

`mkdir`, `rmdir`, `rm`, `cp`, `mv`, `ln`, `touch`, `chmod` and `mktemp`.

* A program goes on with its other operands when it fails at one, and tells so by its status.
* What is copied or moved to a directory keeps its name there.
* A second name for a file is a copy of it: names of the same file do not change together.
-/

namespace DeviceKeys.Tool

open Shell Act

/-! ## 1. Helpers -/

/-- The path of a name in a directory. -/
def within (dir name : Chars) : Chars :=
  if dir.getLast? = some '/' then dir ++ name else dir ++ '/' :: name

/-- Tells that something failed for a reason. -/
def failed (text : String) (path : Chars) (e : IoFault) : Act Bool := do
  warn (text.toList ++ shellQuoted path ++ ": ".toList ++ reason e)
  return false

/-- Tells what was done if that is asked for. -/
def tell (g : Given) (text : Chars) : Act Unit := do
  if g.has 'v' then put (lineOf text)

/-- Where a path leads, links followed in the last place or not. -/
def target (follow : Bool) (path : Chars) : Act (Except IoFault Target) := do
  return (← fs).locate follow (toPath path)

/-- The location that a path leads to, links followed in the last place or not. -/
def located (follow : Bool) (path : Chars) : Act (Except IoFault Location) := do
  match ← target follow path with
  | .ok (.found l) => return .ok l
  | .ok (.missing _ _) => return .error .noEntry
  | .error e => return .error e

/-- What stands at a location. -/
def entryAt? (l : Location) : Act (Option Entry) := return (← fs).get? l

/-- The path leads to a directory. -/
def isDirectory (path : Chars) : Act Bool := return (← fs).isDir (toPath path)

/-- Puts an entry at a location. -/
def putAt (l : Location) (e : Entry) : Act Unit := do setFs ((← fs).put l e)

/-- Takes away what stands at a location. -/
def removeAt (l : Location) : Act Unit := do
  let fs ← fs
  setFs (if fs.isDirAt l then fs.removeTree l else fs.remove l)

/-- The permission bits of an entry. -/
def modeAt (e : Entry) : Nat := (FileSystem.modeOf e).getD 0o777

/-- The entry with other permission bits. -/
def withMode (mode : Nat) : Entry → Entry
  | .file _ data => .file mode data
  | .dir _ => .dir mode
  | e => e

/-! ## 2. Directories -/

/-- The permission bits that a text names for something that has some. -/
def modeOf? (isDir : Bool) (text : Chars) (mode mask : Nat) : Option Nat :=
  if !text.isEmpty && text.all fun c => '0' ≤ c && c ≤ '7' then
    some ((Arithmetic.digits 8 0 text).1 &&& 0o7777)
  else Builtin.changedMode? isDir mask (text.length + 1) text mode

/-- The paths on the way to a path, from the top down. -/
def stages (path : Chars) : List Chars :=
  let rec go : Chars → Chars → List Chars
    | acc, [] => [acc.reverse]
    | acc, c :: r =>
      if c = '/' && !acc.isEmpty && acc.head? ≠ some '/' && !(r.all (· = '/')) then
        acc.reverse :: go (c :: acc) r
      else go (c :: acc) r
  go [] path

/-- Makes a directory and tells so. -/
def makeOne (g : Given) (path : Chars) : Act (Except IoFault Unit) := do
  let p ← process
  match ← attempt fun fs => fs.makeDir (toPath path) with
  | .error e => return .error e
  | .ok () => do
    let usual := 0o777 - (0o777 &&& p.mask)
    let mode := ((g.value? 'm').bind fun m => modeOf? true m 0o777 p.mask).getD usual
    match ← located true path with
    | .ok l => putAt l (.dir mode)
    | .error _ => pure ()
    tell g ((← ownName) ++ ": created directory ".toList ++ shellQuoted path)
    return .ok ()

/-- Makes directories. -/
def mkdir : Tool := fun _ args => do
  let g ← options (words [('p', "parents"), ('v', "verbose")] ++ valuedWords [('m', "mode")])
    true 1 args
  if g.operands.isEmpty then misuse 1 "missing operand".toList
  let make (path : Chars) : Act Bool := do
    match ← makeOne g path with
    | .ok () => return true
    | .error e => failed "cannot create directory " path e
  let rec makeAll : List Chars → Act Bool
    | [] => return true
    | path :: rest => do
      if ← isDirectory path then makeAll rest
      else if ← make path then makeAll rest
      else return false
  let results ← g.operands.mapM fun path => do
    if g.has 'p' then makeAll (stages path) else make path
  return if results.all id then 0 else 1

/-- Removes empty directories. -/
def rmdir : Tool := fun _ args => do
  let g ← options (words [('p', "parents"), ('v', "verbose"), ('i', "ignore-fail-on-non-empty")])
    true 1 args
  if g.operands.isEmpty then misuse 1 "missing operand".toList
  let remove (path : Chars) : Act Bool := do
    tell g ((← ownName) ++ ": removing directory, ".toList ++ shellQuoted path)
    match ← located false (withoutSlashes path) with
    | .error e => failed "failed to remove " path e
    | .ok l =>
      let fs ← fs
      if !fs.isDirAt l then failed "failed to remove " path .notDirectory
      else if !fs.isEmptyDir l then
        if g.has 'i' then return true
        else failed "failed to remove " path (.other "Directory not empty")
      else
        removeAt l
        return true
  let results ← g.operands.mapM fun path => do
    if g.has 'p' then
      let rec upward : List Chars → Act Bool
        | [] => return true
        | p :: ps => do if ← remove p then upward ps else return false
      upward (stages path).reverse
    else remove path
  return if results.all id then 0 else 1

/-! ## 3. Removing -/

/-- The paths of all that stands at or below a path, what is inside first. -/
def allBelow (fs : FileSystem) : Nat → Chars → Location → List (Chars × Location)
  | 0, _, _ => []
  | n + 1, path, l =>
    let inner :=
      if fs.isDirAt l then
        (fs.names l).flatMap fun name => allBelow fs n (within path (ofBytes name)) (name :: l)
      else []
    inner ++ [(path, l)]

/-- A bound on the depth of the file tree. -/
def treeDepth : Nat := 4096

/-- Removes files, and directories if that is asked for. -/
def rm : Tool := fun _ args => do
  let g ← options (words [('r', "recursive"), ('R', ""), ('f', "force"), ('d', "dir"),
    ('v', "verbose"), ('i', ""), ('I', "")]) true 1 args
  let deep := g.has 'r' || g.has 'R'
  if g.operands.isEmpty && !g.has 'f' then misuse 1 "missing operand".toList
  let removeAll (path : Chars) (l : Location) : Act Unit := do
    let fs ← fs
    if g.has 'v' then
      (allBelow fs treeDepth path l).forM fun (p, l) => do
        put (lineOf ((if fs.isDirAt l then "removed directory " else "removed ").toList ++
          shellQuoted p))
    removeAt l
  let results ← g.operands.mapM fun path => do
    let last := lastComponent path
    if deep && (last = ['.'] || last = ['.', '.']) then
      warn ("refusing to remove '.' or '..' directory: skipping ".toList ++ shellQuoted path)
      return false
    else
      match ← located false path with
      | .error e =>
        if g.has 'f' && (e = .noEntry || e = .notDirectory) then return true
        else failed "cannot remove " path e
      | .ok l =>
        let fs ← fs
        if fs.isDirAt l && !deep then
          if g.has 'd' then
            if fs.isEmptyDir l then
              removeAll path l
              return true
            else failed "cannot remove " path (.other "Directory not empty")
          else failed "cannot remove " path .isDirectory
        else
          removeAll path l
          return true
  return if results.all id then 0 else 1

/-! ## 4. Copying -/

/-- Sources with the target of each, for operands that end in a target or name a directory by an
    option. -/
def destinations (g : Given) (kind : String) : Act (List (Chars × Chars)) := do
  let into (dir : Chars) (sources : List Chars) : List (Chars × Chars) :=
    sources.map fun s => (s, within dir (lastComponent s))
  match g.value? 't' with
  | some dir =>
    if g.operands.isEmpty then misuse 1 ("missing ".toList ++ kind.toList ++ "operand".toList)
    else if ← isDirectory dir then return into dir g.operands
    else
      let e := if ← isThere dir then "Not a directory" else "No such file or directory"
      refuse 1 ("target directory ".toList ++ shellQuoted dir ++ ": ".toList ++ e.toList)
  | none =>
    match g.operands.reverse with
    | [] => misuse 1 ("missing ".toList ++ kind.toList ++ "operand".toList)
    | [a] =>
      misuse 1 ("missing destination ".toList ++ kind.toList ++ "operand after ".toList ++
        shellQuoted a)
    | [b, a] =>
      if !g.has 'T' && (← isDirectory b) then return into b [a] else return [(a, b)]
    | b :: sources =>
      if ← isDirectory b then return into b sources.reverse
      else
        let e := if ← isThere b then "Not a directory" else "No such file or directory"
        refuse 1 ("target ".toList ++ shellQuoted b ++ ": ".toList ++ e.toList)
where
  /-- The path leads to something. -/
  isThere (path : Chars) : Act Bool := return (← fs).exists? (toPath path)

/-- Copies an entry to a path where the source was found at a location. -/
def copyOne (g : Given) (source dest : Chars) (origin : Location) (e : Entry) : Act Bool := do
  let p ← process
  let keep := g.has 'p' || g.has 'a'
  let mode := if keep then modeAt e else modeAt e - (modeAt e &&& p.mask)
  let told : Act Unit := tell g (shellQuoted source ++ " -> ".toList ++ shellQuoted dest)
  match e with
  | .link t =>
    match ← located false dest with
    | .ok l => removeAt l
    | .error _ => pure ()
    match ← attempt fun fs => fs.makeLink (toPath dest) t with
    | .ok () => do told; return true
    | .error e => failed "cannot create symbolic link " dest e
  | .dir _ =>
    match ← located true dest with
    | .ok l =>
      if (← fs).isDirAt l then return true
      else
        warn ("cannot overwrite non-directory ".toList ++ shellQuoted dest ++
          " with directory ".toList ++ shellQuoted source)
        return false
    | .error _ =>
      match ← attempt fun fs => fs.makeDir (toPath dest) with
      | .error e => failed "cannot create directory " dest e
      | .ok () => do
        match ← located true dest with
        | .ok l => putAt l (.dir mode)
        | .error _ => pure ()
        told
        return true
  | .file _ data =>
    let dest' := if dest.getLast? = some '/' then withoutSlashes dest else dest
    match ← target true dest' with
    | .error e => failed "cannot create regular file " dest e
    | .ok (.missing dir name) =>
      if dest' ≠ dest then failed "cannot create regular file " dest .notDirectory
      else if ((← fs).linkStat? (toPath dest)).isSome then
        warn ("not writing through dangling symlink ".toList ++ shellQuoted dest)
        return false
      else
        putAt (name :: dir) (.file mode data)
        told
        return true
    | .ok (.found l) =>
      match ← entryAt? l with
      | some (.dir _) => do
        warn ("cannot overwrite directory ".toList ++ shellQuoted dest ++
          " with non-directory ".toList ++ shellQuoted source)
        return false
      | some (.file old _) => do
        if l = origin then
          warn (shellQuoted source ++ " and ".toList ++ shellQuoted dest ++
            " are the same file".toList)
          return false
        else
          putAt l (.file (if keep then mode else old) data)
          told
          return true
      | _ => return false

/-- Copies all that stands below a directory. -/
def copyBelow (g : Given) (source dest : Chars) (origin : Location) :
    Nat → Act Bool
  | 0 => return true
  | n + 1 => do
    let names := (← fs).names origin
    let results ← names.mapM fun name => do
      let l := name :: origin
      let s := within source (ofBytes name)
      let d := within dest (ofBytes name)
      match ← entryAt? l with
      | some e => do
        let done ← copyOne g s d l e
        if e.isDir && done then copyBelow g s d l n else return done
      | none => return true
    return results.all id

/-- Copies files, and directories if that is asked for. -/
def cp : Tool := fun _ args => do
  let g ← options (words [('r', "recursive"), ('R', ""), ('a', "archive"), ('f', "force"), ('p', ""),
    ('P', "no-dereference"), ('L', "dereference"), ('d', ""), ('n', "no-clobber"), ('v', "verbose"),
    ('T', "no-target-directory"), ('u', "update"), ('i', "interactive"), ('l', "link"),
    ('s', "symbolic-link"), ('x', "one-file-system")] ++
    valuedWords [('t', "target-directory")] ++ [⟨'q', "preserve", .optional⟩]) true 1 args
  let deep := g.has 'r' || g.has 'R' || g.has 'a'
  let follow := !(g.has 'P' || g.has 'd' || ((g.has 'a' || deep) && !g.has 'L'))
  let g := if g.has 'q' then { g with options := ('p', []) :: g.options } else g
  let pairs ← destinations g "file "
  let results ← pairs.mapM fun (source, dest) => do
    match ← located follow source with
    | .error e => failed "cannot stat " source e
    | .ok l =>
      let there := (← fs).exists? (toPath dest)
      if g.has 'n' && there then return true
      else
        match ← entryAt? l with
        | none => return false
        | some e =>
          if e.isDir && !deep then
            warn ("-r not specified; omitting directory ".toList ++ shellQuoted source)
            return false
          else if g.has 's' then
            match ← attempt fun fs => fs.makeLink (toPath dest) (toPath source) with
            | .ok () => return true
            | .error e => failed "cannot create symbolic link " dest e
          else if e.isDir then
            match ← located true dest with
            | .ok d =>
              if FileSystem.isWithin d l && d = l then
                warn (shellQuoted source ++ " and ".toList ++ shellQuoted dest ++
                  " are the same file".toList)
                return false
              else if ← copyOne g source dest l e then copyBelow g source dest l treeDepth
              else return false
            | .error _ =>
              if ← copyOne g source dest l e then copyBelow g source dest l treeDepth
              else return false
          else copyOne g source dest l e
  return if results.all id then 0 else 1

/-! ## 5. Moving and linking -/

/-- Moves files and directories. -/
def mv : Tool := fun _ args => do
  let g ← options (words [('f', "force"), ('n', "no-clobber"), ('v', "verbose"), ('i', "interactive"),
    ('u', "update"), ('T', "no-target-directory")] ++ valuedWords [('t', "target-directory")])
    true 1 args
  let pairs ← destinations g "file "
  let results ← pairs.mapM fun (source, dest) => do
    let refused (e : IoFault) : Act Bool := do
      warn ("cannot move ".toList ++ shellQuoted source ++ " to ".toList ++ shellQuoted dest ++
        ": ".toList ++ reason e)
      return false
    match ← located false (withoutSlashes source) with
    | .error e => failed "cannot stat " source e
    | .ok l =>
      let isDir := (← fs).isDirAt l
      let move (l' : Location) : Act Bool := do
        setFs ((← fs).moveTree l l')
        tell g ("renamed ".toList ++ shellQuoted source ++ " -> ".toList ++ shellQuoted dest)
        return true
      let bare := if isDir then withoutSlashes dest else dest
      match ← target false bare with
      | .error e => refused e
      | .ok (.missing dir name) =>
        if FileSystem.isWithin dir l then
          warn ("cannot move ".toList ++ shellQuoted source ++
            " to a subdirectory of itself, ".toList ++ shellQuoted dest)
          return false
        else if bare.getLast? = some '/' then refused .notDirectory
        else move (name :: dir)
      | .ok (.found l') =>
        if l = l' then
          warn (shellQuoted source ++ " and ".toList ++ shellQuoted dest ++
            " are the same file".toList)
          return false
        else if g.has 'n' then return true
        else
          let there := (← fs).isDirAt l'
          if there && !isDir then
            warn ("cannot overwrite directory ".toList ++ shellQuoted dest ++
              " with non-directory".toList)
            return false
          else if isDir && !there then
            warn ("cannot overwrite non-directory ".toList ++ shellQuoted dest ++
              " with directory ".toList ++ shellQuoted source)
            return false
          else if FileSystem.isWithin l' l then
            warn ("cannot move ".toList ++ shellQuoted source ++
              " to a subdirectory of itself, ".toList ++ shellQuoted dest)
            return false
          else if there && !(← fs).isEmptyDir l' then
            refused (.other "Directory not empty")
          else
            removeAt l'
            move l'
  return if results.all id then 0 else 1

/-- The path that leads from a directory to a location. -/
def relativePath (dir l : Location) : Chars :=
  let rec common : List Path.Name → List Path.Name → Nat
    | a :: as, b :: bs => if a = b then common as bs + 1 else 0
    | _, _ => 0
  let a := dir.reverse
  let b := l.reverse
  let n := common a b
  let ups := List.replicate (a.length - n) "..".toList
  let downs := (b.drop n).map ofBytes
  let path := List.intercalate ['/'] (ups ++ downs)
  if path.isEmpty then ['.'] else path

/-- Makes links. -/
def ln : Tool := fun _ args => do
  let g ← options (words [('s', "symbolic"), ('f', "force"), ('n', "no-dereference"), ('v', "verbose"),
    ('r', "relative"), ('T', "no-target-directory"), ('i', "interactive"), ('L', "logical"),
    ('P', "physical"), ('b', "backup")] ++ valuedWords [('t', "target-directory")]) true 1 args
  let symbolic := g.has 's'
  let isLink (path : Chars) : Act Bool := do
    return ((← fs).linkStat? (toPath path)).any fun e =>
      match e with
      | .link _ => true
      | _ => false
  let pairs ←
    match g.value? 't', g.operands with
    | none, [a] => pure [(a, lastComponent a)]
    | none, [a, b] => do
      if g.has 'T' || (g.has 'n' && (← isLink b)) then pure [(a, b)]
      else destinations g "file "
    | _, _ => destinations g "file "
  let kind := if symbolic then "symbolic link" else "hard link"
  let results ← pairs.mapM fun (source, dest) => do
    let refused (e : IoFault) : Act Bool := do
      let arrow := if symbolic then [] else " => ".toList ++ shellQuoted source
      let plainly := symbolic || e = .alreadyExists
      warn ("failed to create ".toList ++ kind.toList ++ [' '] ++ shellQuoted dest ++
        (if plainly then [] else arrow) ++ ": ".toList ++ reason e)
      return false
    let text ←
      if g.has 'r' && symbolic then do
        let dir ← located true (holderOf dest)
        match (← fs).findHolder (toPath source), dir with
        | .ok (holder, some (.down name)), .ok dir => pure (relativePath dir (name :: holder))
        | .ok (holder, _), .ok dir => pure (relativePath dir holder)
        | _, _ => pure source
      else pure source
    let origin ← if symbolic then pure (.ok []) else located false source
    match origin with
    | .error e => do
      warn ("failed to access ".toList ++ shellQuoted source ++ ": ".toList ++ reason e)
      return false
    | .ok origin =>
      if !symbolic && (← fs).isDirAt origin then
        warn (shellQuoted source ++ ": hard link not allowed for directory".toList)
        return false
      else
        let linkUp : Act Bool := do
          let made ←
            if symbolic then attempt fun fs => fs.makeLink (toPath dest) (toPath text)
            else
              match ← target false dest, ← entryAt? origin with
              | .ok (.missing dir name), some e => do
                putAt (name :: dir) e
                pure (.ok ())
              | .error e, _ => pure (.error e)
              | _, _ => pure (.error .alreadyExists)
          match made with
          | .error e => refused e
          | .ok () => do
            tell g (shellQuoted dest ++ (if symbolic then " -> " else " => ").toList ++
              shellQuoted text)
            return true
        match ← located false dest with
        | .error _ => linkUp
        | .ok l =>
          if (← fs).isDirAt l then
            if g.has 'f' then
              warn (shellQuoted dest ++ ": cannot overwrite directory".toList)
              return false
            else refused .alreadyExists
          else if !g.has 'f' then refused .alreadyExists
          else if !symbolic && l = origin then
            warn (shellQuoted source ++ " and ".toList ++ shellQuoted dest ++
              " are the same file".toList)
            return false
          else
            removeAt l
            linkUp
  return if results.all id then 0 else 1

/-! ## 6. Files and their permissions -/

/-- Makes empty files where there are none. -/
def touch : Tool := fun _ args => do
  let g ← options (words [('c', "no-create"), ('a', ""), ('m', ""), ('f', ""),
    ('h', "no-dereference")] ++ valuedWords [('d', "date"), ('t', ""), ('r', "reference")])
    true 1 args
  if g.operands.isEmpty then misuse 1 "missing file operand".toList
  let results ← g.operands.mapM fun path => do
    match ← target true path with
    | .error e =>
      if g.has 'c' && e = .noEntry then return true else failed "cannot touch " path e
    | .ok (.missing dir name) =>
      if g.has 'c' then return true
      else if path.getLast? = some '/' then failed "cannot touch " path .noEntry
      else
        putAt (name :: dir) (.file (Redirection.newMode (← process)) [])
        return true
    | .ok (.found l) =>
      match ← entryAt? l with
      | some (.file mode data) => do
        putAt l (.file mode data)
        return true
      | _ => return true
  return if results.all id then 0 else 1

/-- Changes permission bits. -/
def chmod : Tool := fun _ args => do
  let isMode (a : Chars) : Bool :=
    match a with
    | '-' :: c :: _ => "rwxXst".toList.contains c
    | _ => false
  let (modes, others) := args.partition isMode
  let g ← options (words [('R', "recursive"), ('v', "verbose"), ('c', "changes"), ('f', "quiet")] ++
    valuedWords [('q', "reference")]) true 1 others
  let (text, paths) ←
    match modes, g.operands with
    | m :: _, paths => pure (m, paths)
    | [], m :: paths => pure (m, paths)
    | [], [] => misuse 1 "missing operand".toList
  if paths.isEmpty then misuse 1 ("missing operand after ".toList ++ quoted text)
  let mask := (← process).mask
  if (modeOf? true text 0 mask).isNone then misuse 1 ("invalid mode: ".toList ++ quoted text)
  let set (l : Location) : Act Unit := do
    match ← entryAt? l with
    | some (.link _) => return
    | some e => putAt l (withMode ((modeOf? e.isDir text (modeAt e) mask).getD (modeAt e)) e)
    | none => return
  let results ← paths.mapM fun path => do
    match ← located true path with
    | .error e => if g.has 'f' then return false else failed "cannot access " path e
    | .ok l =>
      if g.has 'R' then
        (allBelow (← fs) treeDepth path l).reverse.forM fun p => set p.2
      else set l
      return true
  return if results.all id then 0 else 1

/-- A name made of a template and a number, in the place of the letters that stand for it. -/
def filled (template : Chars) (n : Nat) : Chars :=
  let front := (template.reverse.dropWhile (· ≠ 'X')).reverse
  let ending := template.drop front.length
  let xs := (front.reverse.takeWhile (· = 'X')).length
  let ds := shown n
  front.take (front.length - xs) ++ List.replicate (xs - ds.length) 'x' ++
    ds.drop (ds.length - xs) ++ ending

/-- Makes a file or a directory of a name that nothing has. -/
def mktemp : Tool := fun _ args => do
  let g ← options (words [('d', "directory"), ('u', "dry-run"), ('q', "quiet"), ('t', "")] ++
    [⟨'p', "tmpdir", .optional⟩] ++ valuedWords [('s', "suffix")]) true 1 args
  let (dir?, operands) :=
    match g.value? 'p', g.operands with
    | some [], d :: rest => (some d, rest)
    | some d, rest => (some d, rest)
    | none, rest => (none, rest)
  let usual := valueOf (← process) "TMPDIR"
  let tmp := if usual.isEmpty then "/tmp".toList else usual
  let path :=
    match operands with
    | [] => within (dir?.getD tmp) "tmp.XXXXXXXXXX".toList
    | t :: _ =>
      match dir? with
      | some d => within d t
      | none => if g.has 't' then within tmp t else t
  let path := path ++ (g.value? 's').getD []
  let name := lastComponent path
  if (name.filter (· = 'X')).length < 3 then
    refuse 1 ("too few X's in template ".toList ++ quoted path)
  let fs ← fs
  let candidates := (List.range (fs.entries.length + 1)).map fun n => filled path (n + 10000)
  let free := candidates.find? fun c => (fs.linkStat? (toPath c)).isNone
  let chosen := free.getD path
  match ← target false chosen with
  | .ok (.missing dir name) => do
    if !g.has 'u' then
      putAt (name :: dir) (if g.has 'd' then .dir 0o700 else .file 0o600 [])
    put (lineOf chosen)
    return 0
  | _ => do
    let kind := if g.has 'd' then "directory" else "file"
    warn ("failed to create ".toList ++ kind.toList ++ " via template ".toList ++ quoted path ++
      ": No such file or directory".toList)
    return 1

end DeviceKeys.Tool
