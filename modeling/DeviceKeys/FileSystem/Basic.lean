import DeviceKeys.FileSystem.Chance
import DeviceKeys.Path

/-! # The file system

A file system is a tree of directories, regular files and symbolic links, seen by a process with a
working directory. The process is the superuser's: permission bits are kept and handed on, but
refuse it nothing.

* A place in the tree is a `Location`: the names on the way to it, the innermost first, so that
  `l.tail` is the directory that holds it and `[]` the top.
* `FileSystem.get?` is what stands at a location. Whatever stands somewhere is held by a directory
  (`FileSystem.parents`) under a name that a path can spell (`FileSystem.named`), so nothing is
  unreachable.
* The working directory is a directory (`FileSystem.inside`), or has been taken away since it was
  entered; it then lies `nowhere`, and a directory made anew under its name is another one.
* `FileSystem.chance` holds what the process cannot foresee; nothing changes it.
* `FileSystem.put` sets an entry where one can stand (`Fits`), and `FileSystem.remove` takes away an
  entry that is no directory. `get?_put` and `get?_remove` say what each does to `get?`.
-/

namespace DeviceKeys

open DeviceKeys.Path (Name)

/-- A place in the tree: the names on the way to it, the innermost first. -/
abbrev Location := List Name

/-- What stands at a location. The number holds the permission bits. -/
inductive Entry where
  | file (mode : Nat) (data : Bytes)
  | dir (mode : Nat)
  | link (target : Path)
  deriving DecidableEq

/-- The entry is a directory. -/
def Entry.isDir : Entry → Bool
  | .dir _ => true
  | _ => false

/-- What a list of entries holds for a location: the first one. -/
def findAt (l : Location) : List (Location × Entry) → Option Entry
  | [] => none
  | e :: rest => if l = e.1 then some e.2 else findAt l rest

/-- A directory stands at the location. -/
def IsDirIn (entries : List (Location × Entry)) (l : Location) : Prop :=
  (findAt l entries).any Entry.isDir = true

/-- The greatest length of a name. -/
def nameLimit : Nat := 255

/-- The last name on the way to a location, if there is one, can name an entry: it is not too long
    and holds no zero. -/
def IsNamed (l : Location) : Prop :=
  ∀ name ∈ l.head?, Path.IsName name ∧ name.length ≤ nameLimit ∧ 0 ∉ name

instance (l : Location) : Decidable (IsNamed l) :=
  inferInstanceAs
    (Decidable (∀ name ∈ l.head?, Path.IsName name ∧ name.length ≤ nameLimit ∧ 0 ∉ name))

theorem isNamed_cons {name : Name} {l : Location} :
    IsNamed (name :: l) ↔ Path.IsName name ∧ name.length ≤ nameLimit ∧ 0 ∉ name := by
  simp [IsNamed]

/-- The location of a directory that was taken away: its name names no entry, so that nothing can
    stand there again. -/
def nowhere : Location := [[]]

theorem not_isNamed_nowhere : ¬IsNamed nowhere := by decide

/-- A file system with the working directory of a process. -/
@[ext]
structure FileSystem where
  entries : List (Location × Entry)
  cwd : Location
  chance : Chance
  top : IsDirIn entries []
  inside : IsDirIn entries cwd ∨ cwd = nowhere
  parents : ∀ l, (findAt l entries).isSome = true → IsDirIn entries l.tail
  named : ∀ l, (findAt l entries).isSome = true → IsNamed l

namespace FileSystem

/-- What stands at a location. -/
def get? (fs : FileSystem) (l : Location) : Option Entry := findAt l fs.entries

/-- A directory stands at the location. -/
def isDirAt (fs : FileSystem) (l : Location) : Bool := (fs.get? l).any Entry.isDir

/-- The tree that holds nothing but its top. -/
def empty : FileSystem where
  entries := [([], .dir 0o755)]
  cwd := []
  chance := .plain
  top := rfl
  inside := .inl rfl
  parents := by
    intro l h
    by_cases hl : l = []
    · subst hl; rfl
    · simp [findAt, hl] at h
  named := by
    intro l h
    by_cases hl : l = []
    · subst hl; simp [IsNamed]
    · simp [findAt, hl] at h

theorem get?_nowhere (fs : FileSystem) : fs.get? nowhere = none := by
  cases h : fs.get? nowhere with
  | none => rfl
  | some e => exact absurd (fs.named nowhere (by rw [← get?, h]; rfl)) not_isNamed_nowhere

/-- The same tree seen from another working directory; one that is not there has been taken away. -/
def withCwd (fs : FileSystem) (l : Location) : FileSystem :=
  { fs with
    cwd := if fs.isDirAt l then l else nowhere
    inside := by
      by_cases h : fs.isDirAt l = true
      · rw [if_pos h]
        exact .inl h
      · rw [if_neg h]
        exact .inr rfl }

/-- The same tree with other draws and another medium. -/
def withChance (fs : FileSystem) (chance : Chance) : FileSystem := { fs with chance := chance }

/-! ## 1. Setting an entry -/

/-- The entries without those at a location. -/
def without (l : Location) (entries : List (Location × Entry)) : List (Location × Entry) :=
  entries.filter fun e => e.1 ≠ l

theorem findAt_without (l l' : Location) : ∀ entries : List (Location × Entry),
    findAt l' (without l entries) = if l' = l then none else findAt l' entries
  | [] => by simp [without, findAt]
  | e :: rest => by
    have ih := findAt_without l l' rest
    unfold without at ih ⊢
    by_cases he : e.1 = l
    · rw [List.filter_cons_of_neg (by simp [he]), ih]
      by_cases hl : l' = l
      · simp [hl]
      · simp [findAt, hl, he]
    · rw [List.filter_cons_of_pos (by simp [he])]
      simp only [findAt, ih]
      by_cases hl : l' = l
      · subst hl
        simp [Ne.symm he]
      · simp [hl]

/-- An entry can stand at a location: a directory holds it under a name, and it does not take the
    place of a directory unless it is one. -/
def Fits (fs : FileSystem) (l : Location) (e : Entry) : Prop :=
  fs.isDirAt l.tail = true ∧ (fs.isDirAt l = true → e.isDir = true) ∧ IsNamed l

instance (fs : FileSystem) (l : Location) (e : Entry) : Decidable (fs.Fits l e) :=
  inferInstanceAs (Decidable (_ ∧ _ ∧ _))

/-- The entries with one set. -/
def setEntry (entries : List (Location × Entry)) (l : Location) (e : Entry) :
    List (Location × Entry) :=
  (l, e) :: without l entries

theorem findAt_setEntry (entries : List (Location × Entry)) (l l' : Location) (e : Entry) :
    findAt l' (setEntry entries l e) = if l' = l then some e else findAt l' entries := by
  unfold setEntry
  simp only [findAt, findAt_without]
  by_cases h : l' = l <;> simp [h]

theorem isDirIn_setEntry {fs : FileSystem} {l l' : Location} {e : Entry} (h : fs.Fits l e)
    (hl' : IsDirIn fs.entries l') : IsDirIn (setEntry fs.entries l e) l' := by
  unfold IsDirIn
  rw [findAt_setEntry]
  by_cases hl : l' = l
  · subst hl
    simpa using h.2.1 hl'
  · simpa [IsDirIn, hl] using hl'

/-- The file system with an entry set; one that does not fit changes nothing. -/
def put (fs : FileSystem) (l : Location) (e : Entry) : FileSystem :=
  if h : fs.Fits l e then
    { entries := setEntry fs.entries l e
      cwd := fs.cwd
      chance := fs.chance
      top := isDirIn_setEntry h fs.top
      inside := fs.inside.imp (isDirIn_setEntry h) id
      parents := by
        intro l' hl'
        rw [findAt_setEntry] at hl'
        refine isDirIn_setEntry h ?_
        by_cases hl : l' = l
        · subst hl
          exact h.1
        · simp only [hl, if_false] at hl'
          exact fs.parents l' hl'
      named := by
        intro l' hl'
        rw [findAt_setEntry] at hl'
        by_cases hl : l' = l
        · exact hl ▸ h.2.2
        · simp only [hl, if_false] at hl'
          exact fs.named l' hl' }
  else fs

theorem get?_put {fs : FileSystem} {l : Location} {e : Entry} (h : fs.Fits l e) (l' : Location) :
    (fs.put l e).get? l' = if l' = l then some e else fs.get? l' := by
  simp only [put, h, dif_pos, get?, findAt_setEntry]

@[simp] theorem cwd_put (fs : FileSystem) (l : Location) (e : Entry) :
    (fs.put l e).cwd = fs.cwd := by
  unfold put
  split <;> rfl

@[simp] theorem chance_put (fs : FileSystem) (l : Location) (e : Entry) :
    (fs.put l e).chance = fs.chance := by
  unfold put
  split <;> rfl

theorem isDirAt_put {fs : FileSystem} {d : Location} (hd : fs.isDirAt d = true) (l : Location)
    (e : Entry) : (fs.put l e).isDirAt d = true := by
  unfold put
  split
  · rename_i h
    exact isDirIn_setEntry h hd
  · exact hd

/-! ## 2. Taking an entry away -/

theorem isDirIn_without {entries : List (Location × Entry)} {l l' : Location}
    (h : ¬IsDirIn entries l) (hl' : IsDirIn entries l') : IsDirIn (without l entries) l' := by
  unfold IsDirIn
  rw [findAt_without]
  by_cases hl : l' = l
  · exact absurd (hl ▸ hl') h
  · simpa [IsDirIn, hl] using hl'

/-- The file system without the file or link at a location; a directory stays. -/
def remove (fs : FileSystem) (l : Location) : FileSystem :=
  if h : fs.isDirAt l = true then fs
  else
    { entries := without l fs.entries
      cwd := fs.cwd
      chance := fs.chance
      top := isDirIn_without h fs.top
      inside := fs.inside.imp (isDirIn_without h) id
      parents := by
        intro l' hl'
        rw [findAt_without] at hl'
        by_cases hl : l' = l
        · simp [hl] at hl'
        · simp only [hl, if_false] at hl'
          exact isDirIn_without h (fs.parents l' hl')
      named := by
        intro l' hl'
        rw [findAt_without] at hl'
        by_cases hl : l' = l
        · simp [hl] at hl'
        · simp only [hl, if_false] at hl'
          exact fs.named l' hl' }

@[simp] theorem chance_remove (fs : FileSystem) (l : Location) :
    (fs.remove l).chance = fs.chance := by
  unfold remove
  split <;> rfl

theorem isDirAt_remove {fs : FileSystem} {d : Location} (hd : fs.isDirAt d = true) (l : Location) :
    (fs.remove l).isDirAt d = true := by
  unfold remove
  split
  · exact hd
  · rename_i h
    exact isDirIn_without h hd

theorem get?_remove {fs : FileSystem} {l : Location} (h : fs.isDirAt l = false) (l' : Location) :
    (fs.remove l).get? l' = if l' = l then none else fs.get? l' := by
  simp [remove, h, get?, findAt_without]

/-- The location lies at or below another. -/
def isWithin (l top : Location) : Bool := top.isSuffixOf l

theorem findAt_filter_within (top l : Location) : ∀ entries : List (Location × Entry),
    findAt l (entries.filter fun e => isWithin e.1 top = false) =
      if isWithin l top = true then none else findAt l entries
  | [] => by simp [findAt]
  | e :: rest => by
    have ih := findAt_filter_within top l rest
    by_cases he : isWithin e.1 top = true
    · rw [List.filter_cons_of_neg (by simp [he]), ih]
      by_cases hl : l = e.1
      · subst hl
        simp [he]
      · simp [findAt, hl]
    · rw [List.filter_cons_of_pos (by simp [he])]
      simp only [findAt, ih]
      by_cases hl : l = e.1
      · subst hl
        simp [he]
      · simp [hl]

theorem isDirIn_filter_within {entries : List (Location × Entry)} {top l : Location}
    (h : ¬isWithin l top = true) (hl : IsDirIn entries l) :
    IsDirIn (entries.filter fun e => isWithin e.1 top = false) l := by
  unfold IsDirIn
  rw [findAt_filter_within]
  simpa [IsDirIn, h] using hl

/-- The file system without anything at or below a location other than the top. A working directory
    among what is taken away lies nowhere. -/
def removeTree (fs : FileSystem) (l : Location) : FileSystem :=
  if hl : l = [] then fs
  else
    { entries := fs.entries.filter fun e => isWithin e.1 l = false
      cwd := if isWithin fs.cwd l then nowhere else fs.cwd
      chance := fs.chance
      top := by
        refine isDirIn_filter_within (fun h => hl ?_) fs.top
        unfold isWithin at h
        exact List.suffix_nil.mp (List.isSuffixOf_iff_suffix.mp h)
      inside := by
        by_cases hw : isWithin fs.cwd l = true
        · rw [if_pos hw]
          exact .inr rfl
        · rw [if_neg hw]
          exact fs.inside.imp (isDirIn_filter_within hw) id
      parents := by
        intro l' hl'
        rw [findAt_filter_within] at hl'
        by_cases hw : isWithin l' l = true
        · simp [hw] at hl'
        · simp only [hw] at hl'
          refine isDirIn_filter_within (fun ht => hw ?_) (fs.parents l' hl')
          unfold isWithin at ht ⊢
          rw [List.isSuffixOf_iff_suffix] at ht ⊢
          exact ht.trans (List.tail_suffix l')
      named := by
        intro l' hl'
        rw [findAt_filter_within] at hl'
        by_cases hw : isWithin l' l = true
        · simp [hw] at hl'
        · simp only [hw] at hl'
          exact fs.named l' hl' }

end FileSystem

end DeviceKeys
