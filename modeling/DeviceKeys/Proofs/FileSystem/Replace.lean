import DeviceKeys.FileSystem.Replace
import DeviceKeys.Proofs.FileSystem.Growth

/-! # What replacing a file does to the tree

* `prepared` is the tree in which the missing directories have been made, and `landing?` the
  location to which the new file is moved there.
* `replace_eq_ok`: a replacement that succeeds gives the location of the landing the new contents,
  and leaves all else as it is in the prepared tree. No temporary file is left.
* `grownBy_of_replace_error`: a replacement that fails leaves everything as it was, new directories
  apart.
-/

namespace DeviceKeys.FileSystem

open DeviceKeys.Path (Step Name)

variable {fs fs' : FileSystem} {l t : Location} {p : Path} {data : Bytes}

/-! ## 1. Files in place of files -/

/-- An entry fits where something stands that is no directory. -/
theorem fits_of_some {e : Entry} (h : fs.get? l = some e) (he : e.isDir = false) (e' : Entry) :
    fs.Fits l e' := by
  have hs : (fs.get? l).isSome = true := by simp [h]
  refine ⟨isDirAt_tail hs, fun hd => ?_, fs.named l hs⟩
  simp [isDirAt, h, he] at hd

theorem not_isDirAt_of_file {mode : Nat} (h : fs.get? l = some (.file mode data)) :
    fs.isDirAt l = false := by
  simp [isDirAt, h, Entry.isDir]

theorem get?_append {mode : Nat} {old : Bytes} (h : fs.get? l = some (.file mode old))
    (data : Bytes) (x : Location) : (fs.append l data).get? x =
      if x = l then some (.file mode (old ++ data)) else fs.get? x := by
  unfold append
  rw [h]
  exact get?_put (fits_of_some h rfl _) x

theorem cwd_append (fs : FileSystem) (l : Location) (data : Bytes) :
    (fs.append l data).cwd = fs.cwd := by
  unfold append
  split
  · exact cwd_put fs _ _
  · rfl

theorem get?_setBits {mode : Nat} (h : fs.get? l = some (.file mode data)) (bits : Option Nat) :
    ∃ mode', ∀ x, (fs.setBits l bits).get? x =
      if x = l then some (.file mode' data) else fs.get? x := by
  unfold setBits
  rw [h]
  cases bits with
  | some mode' => exact ⟨mode', get?_put (fits_of_some h rfl _)⟩
  | none =>
    refine ⟨mode, fun x => ?_⟩
    show fs.get? x = _
    split
    · rename_i hx
      rw [hx]
      exact h
    · rfl

theorem cwd_setBits (fs : FileSystem) (l : Location) (bits : Option Nat) :
    (fs.setBits l bits).cwd = fs.cwd := by
  unfold setBits
  split
  · exact cwd_put fs _ _
  · rfl

@[simp] theorem cwd_remove (fs : FileSystem) (l : Location) : (fs.remove l).cwd = fs.cwd := by
  unfold remove
  split <;> rfl

/-! ## 2. The temporary file -/

/-- The names of temporary files can name entries. -/
theorem isName_temporaryName (tag : Tag) : Path.IsName (temporaryName tag) := by
  refine ⟨by simp [temporaryName], by simp [temporaryName], by simp [temporaryName, Path.dot], ?_⟩
  unfold temporaryName
  rw [List.mem_append, not_or]
  refine ⟨by decide, fun hmem => ?_⟩
  have := tag.alphanumeric _ hmem
  revert this
  decide

theorem temporaryBase_ne_nil {base : Path} (h : fs.temporaryBase p = .ok base) :
    base.bytes ≠ [] := by
  have habs : base.isAbsolute = true := by
    unfold temporaryBase at h
    split at h
    · cases h
      assumption
    · unfold currentDir at h
      split at h
      · cases h
        exact Path.isAbsolute_join rfl p
      · cases h
  intro hnil
  simp [Path.isAbsolute, hnil] at habs

/-- A file is created where the last component of its path names nothing. -/
theorem createFile_eq_ok {mode : Nat} (h : fs.createFile p mode = .ok (t, fs')) :
    fs.vacant p = .ok t ∧ fs' = fs.put t (.file mode []) := by
  unfold createFile at h
  cases hv : fs.vacant p with
  | error e => rw [hv] at h; cases h
  | ok l =>
    rw [hv] at h
    simp only [bind, Except.bind] at h
    split at h
    · cases h
    · cases h
      exact ⟨rfl, rfl⟩

/-- A file whose path ends in a joined name is created under that name, where nothing stood. -/
theorem createFile_join_eq_ok {base : Path} {name : Name} {mode : Nat} (hn : Path.IsName name)
    (hb : base.bytes ≠ []) (h : fs.createFile (base.join ⟨name⟩) mode = .ok (t, fs')) : ∃ l,
      t = name :: l ∧ fs.get? t = none ∧ fs.Fits t (.file mode []) ∧
        fs' = fs.put t (.file mode []) := by
  obtain ⟨hv, hfs⟩ := createFile_eq_ok h
  obtain ⟨l, last, rfl, hh, -, hnone, hfits⟩ := vacant_eq_ok hv
  obtain ⟨-, -, -, hlast⟩ := findHolder_eq_ok hh
  rw [Path.components_join hn hb, List.getLast?_concat] at hlast
  cases hlast
  exact ⟨l, rfl, hnone, hfits _, hfs⟩

/-- **The first name that nothing has** is the one under which a temporary file is created. -/
theorem createDrawn_eq_ok {base : Path} {r : Temporary × FileSystem} : ∀ {n i : Nat},
    fs.createDrawn base n i = .ok r → ∃ j,
      fs.createFile (base.join ⟨temporaryName (fs.chance.draw j)⟩) temporaryMode =
        .ok (r.1.place, r.2)
  | 0, i, h => by cases h
  | n + 1, i, h => by
    unfold createDrawn at h
    simp only at h
    split at h
    · rename_i l fs' hcreate
      cases h
      exact ⟨i, hcreate⟩
    · exact createDrawn_eq_ok h
    · cases h

variable {temporary : Temporary}

/-- A temporary file is created in the directory, under a drawn name. -/
theorem exists_base (h : fs.createTemporary p = .ok (temporary, fs')) : ∃ base tag,
    fs.temporaryBase p = .ok base ∧
      fs.createFile (base.join ⟨temporaryName tag⟩) temporaryMode = .ok (temporary.place, fs') := by
  unfold createTemporary at h
  cases hb : fs.temporaryBase p with
  | error e => rw [hb] at h; cases h
  | ok base =>
    rw [hb] at h
    have hdrawn : fs.createDrawn base temporaryTries 0 = .ok (temporary, fs') := h
    obtain ⟨j, hcreate⟩ := createDrawn_eq_ok hdrawn
    exact ⟨base, _, rfl, hcreate⟩

/-- A temporary file is an empty file where nothing stood, in a directory. -/
theorem createTemporary_eq_ok (h : fs.createTemporary p = .ok (temporary, fs')) :
    fs.get? temporary.place = none ∧ fs.Fits temporary.place (.file temporaryMode []) ∧
      fs' = fs.put temporary.place (.file temporaryMode []) := by
  obtain ⟨base, tag, hb, hcreate⟩ := exists_base h
  obtain ⟨l, -, hcreated⟩ :=
    createFile_join_eq_ok (isName_temporaryName tag) (temporaryBase_ne_nil hb) hcreate
  exact hcreated

theorem of_raise {α : Type} {fault : Option IoFault} {next : Unit → Except IoFault α} {a : α}
    (h : raise fault >>= next = .ok a) : next () = .ok a := by
  cases fault with
  | none => exact h
  | some e => cases h

/-- A temporary file that is filled has the contents and the permission bits of the target. -/
theorem fill_eq_ok {q : Path} (h : fs.fill temporary q data = .ok fs') :
    fs' = (fs.append temporary.place data).setBits temporary.place
      ((fs.append temporary.place data).mode? q) := by
  have hset := of_raise (of_raise (of_raise h))
  cases hset
  rfl

/-- The temporary file after it has been written and has got its permission bits. -/
theorem exists_written (h : fs.createTemporary p = .ok (temporary, fs')) {q : Path}
    {fs'' : FileSystem} (hfill : fs'.fill temporary q data = .ok fs'') :
    (∃ mode, ∀ x, fs''.get? x =
      if x = temporary.place then some (.file mode data) else fs.get? x) ∧ fs''.cwd = fs.cwd := by
  obtain ⟨-, hfits, rfl⟩ := createTemporary_eq_ok h
  obtain rfl := fill_eq_ok hfill
  have hput := get?_put hfits
  have happ := get?_append (by rw [hput, if_pos rfl]) data
  refine ⟨?_, by rw [cwd_setBits, cwd_append, cwd_put]⟩
  obtain ⟨mode, hmode⟩ := get?_setBits (by rw [happ, if_pos rfl])
    (((fs.put temporary.place (.file temporaryMode [])).append temporary.place data).mode? q)
  refine ⟨mode, fun x => ?_⟩
  rw [hmode]
  split
  · rfl
  · rename_i hx
    rw [happ, if_neg hx, hput, if_neg hx]

/-! ## 3. The move to the target -/

/-- What a move that succeeds does. -/
theorem rename_eq_ok (h : fs.rename t p = .ok fs') : ∃ l name e,
    fs.findHolder p = .ok (l, some (.down name)) ∧ name.length ≤ nameLimit ∧
      p.endsInSlash = false ∧ fs.isDirAt (name :: l) = false ∧ fs.get? t = some e ∧
      fs' = (fs.remove t).put (name :: l) e := by
  unfold rename at h
  split at h
  · cases h
  · cases h
  · rename_i l name hf
    split at h
    · cases h
    split at h
    · cases h
    split at h
    · cases h
    · rename_i hn hslash hdir
      split at h
      · rename_i e he
        cases h
        exact ⟨l, name, e, hf, Nat.not_lt.mp hn, by simpa using hslash, by simpa using hdir, he,
          rfl⟩
      · cases h
  · cases h

/-- What the tree shows after a file has been moved. -/
theorem get?_moved {l : Location} {name : Name} {mode : Nat}
    (ht : fs.get? t = some (.file mode data)) (hl : fs.isDirAt l = true)
    (hn : IsNamed (name :: l)) (hdir : fs.isDirAt (name :: l) = false) (x : Location) :
    ((fs.remove t).put (name :: l) (.file mode data)).get? x =
      if x = name :: l then some (.file mode data) else if x = t then none else fs.get? x := by
  have hrem := get?_remove (not_isDirAt_of_file ht)
  have hkeep : ∀ y, (fs.remove t).isDirAt y = fs.isDirAt y := by
    intro y
    unfold isDirAt
    rw [hrem]
    split
    · rename_i hy
      rw [hy, ht]
      rfl
    · rfl
  have hfits : (fs.remove t).Fits (name :: l) (.file mode data) := by
    refine ⟨(hkeep l).trans hl, fun hd => ?_, hn⟩
    rw [hkeep, hdir] at hd
    cases hd
  rw [get?_put hfits, hrem]

/-- A new file stands on no way to a directory, so without it a path has the same holder. -/
theorem findHolder_of_file {fs fs' : FileSystem} {mode : Nat} {r : Location × Option Step}
    (hget : ∀ x, fs'.get? x = if x = t then some (.file mode data) else fs.get? x)
    (hcwd : fs'.cwd = fs.cwd) (h : fs'.findHolder p = .ok r) : fs.findHolder p = .ok r := by
  obtain ⟨l, s⟩ := r
  obtain ⟨hc, hw, hl, rfl⟩ := findHolder_eq_ok h
  have hd : ∀ x, fs'.isDirAt x = true → fs.isDirAt x = true := by
    intro x hx
    unfold isDirAt at hx ⊢
    rw [hget] at hx
    split at hx
    · simp [Entry.isDir] at hx
    · exact hx
  obtain ⟨ks, hk, hr⟩ := exists_route hw
  have hr' : Route fs (startOf fs'.cwd p) p.components.dropLast ks l := by
    refine hr.transfer hd (fun x hx => ?_) fun hm => ?_
    · obtain ⟨target, ht⟩ := hr.link_of_mem hx
      rw [hget] at ht ⊢
      split at ht
      · cases ht
      · rename_i hxt
        rw [if_neg hxt]
    · rw [hl] at hm
      cases hm
  refine findHolder_of_walk hc ?_ (hd l hl)
  rw [← hcwd]
  exact walk_of_route hr' hk

/-! ## 4. The replacement -/

/-- The tree in which the directories that a replacement needs have been made. -/
def prepared (fs : FileSystem) (p : Path) : FileSystem :=
  (fs.makeDirs (holderPath (fs.replaceTarget p))).2

/-- The location to which a replacement moves the new file. -/
def landing? (fs : FileSystem) (p : Path) : Option Location :=
  match (fs.prepared p).findHolder (fs.replaceTarget p) with
  | .ok (l, some (.down name)) => some (name :: l)
  | _ => none

theorem grownBy_prepared (fs : FileSystem) (p : Path) : GrownBy fs (fs.prepared p) :=
  grownBy_makeDirs fs _

/-- What a replacement that succeeds leaves: a file with the new contents where the last component
    of the target names an entry of the directory that the others lead to, and all else as it is in
    the prepared tree. -/
structure Replaced (fs : FileSystem) (p : Path) (data : Bytes) (fs' : FileSystem)
    (l : Location) (name : Name) : Prop where
  holder : (fs.prepared p).findHolder (fs.replaceTarget p) = .ok (l, some (.down name))
  length_le : name.length ≤ nameLimit
  endsInSlash : (fs.replaceTarget p).endsInSlash = false
  not_isDirAt : (fs.prepared p).isDirAt (name :: l) = false
  get?_eq : ∃ mode, ∀ x, fs'.get? x =
    if x = name :: l then some (.file mode data) else (fs.prepared p).get? x
  cwd : fs'.cwd = fs.cwd

theorem Replaced.landing?_eq {name : Name} (h : Replaced fs p data fs' l name) :
    fs.landing? p = some (name :: l) := by
  unfold landing?
  rw [h.holder]

/-- The steps of a replacement that succeeds. -/
theorem exists_steps (h : fs.replace p data = (.ok (), fs')) : ∃ temporary fs₁ fs₂,
    (fs.prepared p).createTemporary (holderPath (fs.replaceTarget p)) = .ok (temporary, fs₁) ∧
      fs₁.fill temporary (fs.replaceTarget p) data = .ok fs₂ ∧
      fs₂.rename temporary.place (fs.replaceTarget p) = .ok fs' := by
  unfold replace at h
  simp only at h
  split at h
  · cases h
  rename_i fs₁ hdirs
  obtain rfl : fs.prepared p = fs₁ := congrArg Prod.snd hdirs
  split at h
  · cases h
  rename_i temporary fs₁ htemp
  cases hfill : fs₁.fill temporary (fs.replaceTarget p) data with
  | error e =>
    rw [hfill] at h
    cases h
  | ok fs₂ =>
    rw [hfill] at h
    simp only [bind, Except.bind] at h
    split at h
    · rename_i fs₃ hren
      cases h
      exact ⟨temporary, fs₁, fs₂, htemp, hfill, hren⟩
    · cases h

/-- **What a replacement that succeeds does.** -/
theorem replace_eq_ok (h : fs.replace p data = (.ok (), fs')) :
    ∃ l name, Replaced fs p data fs' l name := by
  have hgrown := grownBy_prepared fs p
  obtain ⟨temporary, fs₁, fs₂, htemp, hfill, hren⟩ := exists_steps h
  obtain ⟨⟨mode, hget⟩, hcwd⟩ := exists_written htemp hfill
  obtain ⟨hnone, -, -⟩ := createTemporary_eq_ok htemp
  obtain ⟨l, name, e, hf, hlen, hslash, hdir, he, rfl⟩ := rename_eq_ok hren
  obtain ⟨-, -, hl, -⟩ := findHolder_eq_ok hf
  rw [hget, if_pos rfl] at he
  cases he
  have hmoved := get?_moved (by rw [hget, if_pos rfl]) hl (isNamed_of_findHolder hf hlen) hdir
  refine ⟨l, name, findHolder_of_file hget hcwd hf, hlen, hslash, ?_, ⟨mode, fun x => ?_⟩, ?_⟩
  · unfold isDirAt at hdir ⊢
    rw [hget] at hdir
    split at hdir
    · rename_i heq
      rw [heq, hnone]
      rfl
    · exact hdir
  · rw [hmoved, hget]
    split
    · rfl
    split
    · rename_i hxt
      rw [hxt, hnone]
    · rfl
  · rw [cwd_put, cwd_remove, hcwd, hgrown.cwd]

/-- **A replacement that fails leaves the prepared tree**, whichever of its steps it was that
    failed: without the temporary file, or not yet with it. -/
theorem get?_of_replace_error {e : IoFault} (h : fs.replace p data = (.error e, fs')) :
    (∀ x, fs'.get? x = (fs.prepared p).get? x) ∧ fs'.cwd = fs.cwd := by
  have hcwd := (grownBy_prepared fs p).cwd
  unfold replace at h
  simp only at h
  split at h
  · rename_i fs₁ hdirs
    cases h
    obtain rfl : fs.prepared p = fs' := congrArg Prod.snd hdirs
    exact ⟨fun _ => rfl, hcwd⟩
  rename_i fs₁ hdirs
  obtain rfl : fs.prepared p = fs₁ := congrArg Prod.snd hdirs
  split at h
  · cases h
    exact ⟨fun _ => rfl, hcwd⟩
  rename_i temporary fs₁ htemp
  obtain ⟨hnone, hfits, hfs₁⟩ := createTemporary_eq_ok htemp
  have hput : ∀ x, fs₁.get? x = if x = temporary.place then some (.file temporaryMode [])
      else (fs.prepared p).get? x := fun x => by rw [hfs₁, get?_put hfits]
  split at h
  · cases h
  · cases h
    refine ⟨fun x => ?_, by rw [cwd_remove, hfs₁, cwd_put, hcwd]⟩
    rw [get?_remove (not_isDirAt_of_file (by rw [hput, if_pos rfl])), hput]
    split
    · rename_i hxt
      rw [hxt, hnone]
    · rfl

/-- **A replacement that fails leaves everything as it was**, new directories apart. -/
theorem grownBy_of_replace_error {e : IoFault} (h : fs.replace p data = (.error e, fs')) :
    GrownBy fs fs' := by
  obtain ⟨hget, hcwd⟩ := get?_of_replace_error h
  have hgrown := grownBy_prepared fs p
  exact hgrown.of_get?_eq hget (hcwd.trans hgrown.cwd.symm)

end DeviceKeys.FileSystem
