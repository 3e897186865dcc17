import DeviceKeys.FileSystem.Calls
import DeviceKeys.Proofs.FileSystem.Walk
import DeviceKeys.Proofs.Path

/-! # Making directories adds directories and changes nothing else

* `GrownBy`: what stood in a tree stands in the other as it was, and whatever is new is a
  directory. So nothing but directories stands at or below a new one (`GrownBy.isDir_below`).
* Each call of `makeDir` adds one directory (`makeDir_eq_ok`), so `makeDirs` grows the tree
  whether it succeeds or fails (`grownBy_makeDirs`).
-/

namespace DeviceKeys.FileSystem

open DeviceKeys.Path (Step Name)

variable {fs fs' fs'' : FileSystem} {l : Location} {p : Path}

/-! ## 1. Directories on the way -/

theorem isDirAt_tail (h : (fs.get? l).isSome = true) : fs.isDirAt l.tail = true := fs.parents l h

theorem isDirAt_top (fs : FileSystem) : fs.isDirAt [] = true := fs.top

theorem get?_isSome_of_isDirAt (h : fs.isDirAt l = true) : (fs.get? l).isSome = true := by
  obtain ⟨mode, hm⟩ := exists_dir h
  simp [hm]

/-- A directory stands in front of every directory. -/
theorem isDirAt_append : ∀ {a b : Location}, fs.isDirAt (a ++ b) = true → fs.isDirAt b = true
  | [], _, h => h
  | _ :: _, _, h => isDirAt_append (isDirAt_tail (get?_isSome_of_isDirAt h))

/-- All names on the way to what stands somewhere are names of entries. -/
theorem named_of_mem : ∀ {l : Location}, (fs.get? l).isSome = true →
    ∀ n ∈ l, Path.IsName n ∧ n.length ≤ nameLimit ∧ 0 ∉ n
  | name :: l, h, n, hn => by
    rcases List.mem_cons.mp hn with rfl | hn
    · exact isNamed_cons.mp (fs.named _ h)
    · exact named_of_mem (get?_isSome_of_isDirAt (isDirAt_tail h)) n hn

theorem isName_of_mem (h : (fs.get? l).isSome = true) : ∀ n ∈ l, Path.IsName n :=
  fun n hn => (named_of_mem h n hn).1

theorem not_isDirAt_of_none (h : fs.get? l = none) : fs.isDirAt l = false := by
  simp [isDirAt, h]

/-- An entry fits where nothing stands in a directory. -/
theorem fits_of_none {name : Name} {e : Entry} (hl : fs.isDirAt l = true)
    (hn : IsNamed (name :: l)) (h : fs.get? (name :: l) = none) : fs.Fits (name :: l) e := by
  refine ⟨hl, fun hd => ?_, hn⟩
  rw [not_isDirAt_of_none h] at hd
  cases hd

/-! ## 2. Growth -/

/-- What stood in a tree stands in the other as it was, and whatever is new is a directory. -/
structure GrownBy (fs fs' : FileSystem) : Prop where
  kept : ∀ {l : Location} {e : Entry}, fs.get? l = some e → fs'.get? l = some e
  isDir_new : ∀ {l : Location} {e : Entry}, fs.get? l = none → fs'.get? l = some e →
    e.isDir = true
  cwd : fs'.cwd = fs.cwd

namespace GrownBy

theorem refl (fs : FileSystem) : GrownBy fs fs where
  kept := id
  isDir_new := fun hn hs => by rw [hn] at hs; cases hs
  cwd := rfl

theorem trans (h : GrownBy fs fs') (k : GrownBy fs' fs'') : GrownBy fs fs'' where
  kept := fun hl => k.kept (h.kept hl)
  isDir_new := by
    intro l e hn hs
    cases hl : fs'.get? l with
    | none => exact k.isDir_new hl hs
    | some e' =>
      have : e = e' := Option.some.inj (hs.symm.trans (k.kept hl))
      exact this ▸ h.isDir_new hn hl
  cwd := k.cwd.trans h.cwd

/-- A tree that shows the same everywhere has grown just as much. -/
theorem of_get?_eq (h : GrownBy fs fs') (hget : ∀ l, fs''.get? l = fs'.get? l)
    (hcwd : fs''.cwd = fs'.cwd) : GrownBy fs fs'' where
  kept := fun hl => (hget _).trans (h.kept hl)
  isDir_new := fun hn hs => h.isDir_new hn ((hget _).symm.trans hs)
  cwd := hcwd.trans h.cwd

theorem isDirAt (h : GrownBy fs fs') (hl : fs.isDirAt l = true) : fs'.isDirAt l = true := by
  obtain ⟨mode, hm⟩ := exists_dir hl
  exact isDirAt_of_get? (h.kept hm)

/-- **Nothing but directories stands at or below a new location.** -/
theorem isDir_below (h : GrownBy fs fs') (hl : fs.get? l = none) {below : Location} {e : Entry}
    (he : fs'.get? (below ++ l) = some e) : e.isDir = true := by
  refine h.isDir_new ?_ he
  cases hb : fs.get? (below ++ l) with
  | none => rfl
  | some e' =>
    have hs : (fs.get? (below ++ l)).isSome = true := by simp [hb]
    cases below with
    | nil => rw [List.nil_append, hl] at hb; cases hb
    | cons name below =>
      have hd : fs.isDirAt l = true := isDirAt_append (isDirAt_tail hs)
      rw [not_isDirAt_of_none hl] at hd
      cases hd

/-- A route stays one in a grown tree. -/
theorem route {m : Location} {steps : List Step} {ks : List Location} (h : GrownBy fs fs')
    (hr : Route fs l steps ks m) (hm : ∃ e, fs.get? m = some e ∧ ∀ t, e ≠ .link t) :
    Route fs' l steps ks m := by
  refine hr.transfer (fun x hx => h.isDirAt hx) (fun x hx => ?_) fun _ => ?_
  · obtain ⟨t, ht⟩ := hr.link_of_mem hx
    rw [ht, h.kept ht]
  · obtain ⟨e, he, hlink⟩ := hm
    exact ⟨e, h.kept he, hlink⟩

end GrownBy

theorem grownBy_put_dir {mode : Nat} (hfits : fs.Fits l (.dir mode)) (h : fs.get? l = none) :
    GrownBy fs (fs.put l (.dir mode)) where
  kept := by
    intro x e hx
    rw [get?_put hfits]
    split
    · rename_i hxl
      rw [hxl, h] at hx
      cases hx
    · exact hx
  isDir_new := by
    intro x e hx hs
    rw [get?_put hfits, hx] at hs
    split at hs
    · cases hs; rfl
    · cases hs
  cwd := cwd_put fs _ _

/-! ## 3. The directory that holds the last component -/

theorem checkBytes_eq_ok_iff : checkBytes p = .ok () ↔ 0 ∉ p.bytes ∧ p.bytes ≠ [] := by
  unfold checkBytes
  by_cases hz : (0 : UInt8) ∈ p.bytes
  · simp [hz]
  · by_cases hnil : p.bytes = [] <;> simp [hz, hnil]

theorem checkPath_eq_ok_iff : checkPath p = .ok () ↔
    checkBytes p = .ok () ∧ p.bytes.length < pathLimit := by
  unfold checkPath
  cases checkBytes p with
  | error e => simp [bind, Except.bind]
  | ok u => simp [bind, Except.bind]

/-- What `findHolder` finds: the directory to which all components but the last lead. -/
theorem findHolder_eq_ok {s : Option Step} (h : fs.findHolder p = .ok (l, s)) :
    checkPath p = .ok () ∧
      fs.walk true linkLimit (startOf fs.cwd p) p.components.dropLast = .ok (.found l) ∧
      fs.isDirAt l = true ∧ s = p.components.getLast? := by
  unfold findHolder at h
  cases hc : checkPath p with
  | error e => rw [hc] at h; cases h
  | ok u =>
    cases hw : fs.walk true linkLimit (startOf fs.cwd p) p.components.dropLast with
    | error e => rw [hc, hw] at h; cases h
    | ok t =>
      cases t with
      | missing d n => rw [hc, hw] at h; cases h
      | found m =>
        rw [hc, hw] at h
        simp only [bind, Except.bind] at h
        split at h
        · rename_i hd
          cases h
          exact ⟨rfl, rfl, hd, rfl⟩
        · cases h

theorem findHolder_of_walk (hc : checkPath p = .ok ())
    (hw : fs.walk true linkLimit (startOf fs.cwd p) p.components.dropLast = .ok (.found l))
    (hl : fs.isDirAt l = true) : fs.findHolder p = .ok (l, p.components.getLast?) := by
  unfold findHolder
  rw [hc, hw]
  simp only [bind, Except.bind, hl, if_true]

/-- A last component that is not too long can name an entry. -/
theorem isNamed_of_findHolder {name : Name} (h : fs.findHolder p = .ok (l, some (.down name)))
    (hlen : name.length ≤ nameLimit) : IsNamed (name :: l) := by
  obtain ⟨hc, -, -, hs⟩ := findHolder_eq_ok h
  have hmem : .down name ∈ p.components := List.mem_of_getLast? hs.symm
  obtain ⟨hzero, -⟩ := checkBytes_eq_ok_iff.mp (checkPath_eq_ok_iff.mp hc).1
  exact isNamed_cons.mpr ⟨Path.isName_of_mem_components hmem, hlen,
    fun hz => hzero (Path.mem_of_mem_components hmem hz)⟩

/-! ## 4. Making directories -/

/-- Something new is to stand where the last component of a path names nothing. -/
theorem vacant_eq_ok {m : Location} (h : fs.vacant p = .ok m) : ∃ l name, m = name :: l ∧
    fs.findHolder p = .ok (l, some (.down name)) ∧ name.length ≤ nameLimit ∧
      fs.get? (name :: l) = none ∧ ∀ e, fs.Fits (name :: l) e := by
  unfold vacant at h
  cases hf : fs.findHolder p with
  | error e => rw [hf] at h; cases h
  | ok r =>
    obtain ⟨l, s⟩ := r
    rw [hf] at h
    simp only [bind, Except.bind] at h
    split at h
    · rename_i l' name heq
      obtain ⟨rfl, rfl⟩ := Prod.mk.inj heq
      split at h
      · cases h
      split at h
      · cases h
      · rename_i hlen hsome
        cases h
        obtain ⟨-, -, hd, -⟩ := findHolder_eq_ok hf
        have hnone : fs.get? (name :: l) = none := by simpa using hsome
        have hlen := Nat.not_lt.mp hlen
        exact ⟨l, name, rfl, rfl, hlen, hnone, fun e =>
          fits_of_none hd (isNamed_of_findHolder hf hlen) hnone⟩
    · cases h

/-- A directory is made where the last component of its path names nothing. -/
theorem makeDir_eq_ok (h : fs.makeDir p = .ok fs') : ∃ l name,
    fs.findHolder p = .ok (l, some (.down name)) ∧ name.length ≤ nameLimit ∧
      fs.get? (name :: l) = none ∧ (∀ e, fs.Fits (name :: l) e) ∧
      fs' = fs.put (name :: l) (.dir newDirMode) := by
  unfold makeDir at h
  cases hv : fs.vacant p with
  | error e => rw [hv] at h; cases h
  | ok m =>
    obtain ⟨l, name, rfl, hf, hlen, hnone, hfits⟩ := vacant_eq_ok hv
    rw [hv] at h
    cases h
    exact ⟨l, name, hf, hlen, hnone, hfits, rfl⟩

theorem grownBy_makeDir (h : fs.makeDir p = .ok fs') : GrownBy fs fs' := by
  obtain ⟨l, name, -, -, hnone, hfits, rfl⟩ := makeDir_eq_ok h
  exact grownBy_put_dir (hfits _) hnone

theorem grownBy_climb : ∀ (ps todo : List Path) (fs : FileSystem),
    GrownBy fs (climb ps todo fs).2
  | [], _, fs => .refl fs
  | p :: ps, todo, fs => by
    unfold climb
    split
    · exact .refl fs
    split
    · rename_i fs' h
      exact grownBy_makeDir h
    · exact grownBy_climb ps (p :: todo) fs
    · split <;> exact .refl fs

theorem grownBy_descend : ∀ (ps : List Path) (fs : FileSystem), GrownBy fs (descend ps fs).2
  | [], fs => .refl fs
  | p :: ps, fs => by
    unfold descend
    split
    · rename_i fs' h
      exact (grownBy_makeDir h).trans (grownBy_descend ps fs')
    · split
      · exact grownBy_descend ps fs
      · exact .refl fs

/-- **Making directories grows the tree**, also when it fails half way. -/
theorem grownBy_makeDirs (fs : FileSystem) (p : Path) : GrownBy fs (fs.makeDirs p).2 := by
  have h := grownBy_climb p.ancestors [] fs
  unfold makeDirs
  split
  · rename_i todo fs' hc
    rw [hc] at h
    exact h.trans (grownBy_descend todo fs')
  · rename_i e fs' hc
    rw [hc] at h
    exact h

end DeviceKeys.FileSystem
