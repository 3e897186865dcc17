import DeviceKeys.Proofs.FileSystem.Reading

/-! # What a path looks up

Following a path, a walk looks up one name after the other, the names in the targets of links among
them. `lookups` lists the locations of these names.

* **`read_of_agree`**: what the path reads as depends on nothing else, as long as all directories
  stay directories.
* **`Landed.read_eq`**, `Landed.read_on`: so a new file in a place where no directory is changes
  nothing for a path that does not look that place up. One that does now stops at the file.
* `lookups_of_grownBy`: a path that leads to a file looks up the same in a grown tree.
-/

namespace DeviceKeys.FileSystem

open DeviceKeys.Path (Step Name)

/-! ## 1. The locations -/

/-- The locations that the steps of a walk look up, where those after a link are left to
    `onLink`. -/
def lookupSteps (fs : FileSystem) (onLink : Location → Path → List Step → List Location) :
    Location → List Step → List Location
  | _, [] => []
  | l, step :: rest =>
    if fs.isDirAt l then
      match step with
      | .here => lookupSteps fs onLink l rest
      | .up => lookupSteps fs onLink l.tail rest
      | .down name =>
        if nameLimit < name.length then []
        else
          (name :: l) :: match fs.get? (name :: l) with
            | none => []
            | some (.link target) => onLink l target rest
            | some _ => lookupSteps fs onLink (name :: l) rest
    else []

/-- The locations that a walk with at most the given count of links looks up, in their order. -/
def lookupsOn (fs : FileSystem) : Nat → Location → List Step → List Location
  | 0 => lookupSteps fs fun _ _ _ => []
  | n + 1 =>
    lookupSteps fs fun l target rest => lookupsOn fs n (startOf l target) (target.steps ++ rest)

/-- The locations that are looked up to find what a path names. -/
def lookups (fs : FileSystem) (p : Path) : List Location :=
  match checkPath p with
  | .ok _ => fs.lookupsOn linkLimit (startOf fs.cwd p) p.steps
  | .error _ => []

/-! ## 2. The equations -/

section Equations

variable {fs : FileSystem} {n : Nat} {l : Location} {name : Name} {rest : List Step}

theorem lookupsOn_nil : fs.lookupsOn n l [] = [] := by
  cases n <;> rfl

theorem lookupsOn_notDirectory (hl : fs.isDirAt l = false) (step : Step) :
    fs.lookupsOn n l (step :: rest) = [] := by
  have hn : ¬fs.isDirAt l = true := by simp [hl]
  cases n <;> exact if_neg hn

theorem lookupsOn_here (hl : fs.isDirAt l = true) :
    fs.lookupsOn n l (.here :: rest) = fs.lookupsOn n l rest := by
  cases n <;> exact if_pos hl

theorem lookupsOn_up (hl : fs.isDirAt l = true) :
    fs.lookupsOn n l (.up :: rest) = fs.lookupsOn n l.tail rest := by
  cases n <;> exact if_pos hl

theorem lookupsOn_tooLong (hl : fs.isDirAt l = true) (hn : nameLimit < name.length) :
    fs.lookupsOn n l (.down name :: rest) = [] := by
  cases n <;> exact (if_pos hl).trans (if_pos hn)

theorem lookupsOn_absent (hl : fs.isDirAt l = true) (hn : name.length ≤ nameLimit)
    (he : fs.get? (name :: l) = none) : fs.lookupsOn n l (.down name :: rest) = [name :: l] := by
  have hn := Nat.not_lt.mpr hn
  cases n <;> exact (if_pos hl).trans ((if_neg hn).trans (by rw [he]))

theorem lookupsOn_entry {e : Entry} (hl : fs.isDirAt l = true) (hn : name.length ≤ nameLimit)
    (he : fs.get? (name :: l) = some e) (hlink : ∀ t, e ≠ .link t) :
    fs.lookupsOn n l (.down name :: rest) =
      (name :: l) :: fs.lookupsOn n (name :: l) rest := by
  have hn := Nat.not_lt.mpr hn
  cases e with
  | link t => exact absurd rfl (hlink t)
  | _ => cases n <;> exact (if_pos hl).trans ((if_neg hn).trans (by rw [he]; rfl))

theorem lookupsOn_lastLink {target : Path} (hl : fs.isDirAt l = true)
    (hn : name.length ≤ nameLimit) (he : fs.get? (name :: l) = some (.link target)) :
    fs.lookupsOn 0 l (.down name :: rest) = [name :: l] :=
  (if_pos hl).trans ((if_neg (Nat.not_lt.mpr hn)).trans (by rw [he]))

theorem lookupsOn_link {target : Path} (hl : fs.isDirAt l = true) (hn : name.length ≤ nameLimit)
    (he : fs.get? (name :: l) = some (.link target)) :
    fs.lookupsOn (n + 1) l (.down name :: rest) =
      (name :: l) :: fs.lookupsOn n (startOf l target) (target.steps ++ rest) :=
  (if_pos hl).trans ((if_neg (Nat.not_lt.mpr hn)).trans (by rw [he]))

end Equations

variable {fs fs' : FileSystem} {p : Path} {n : Nat} {l m : Location} {steps : List Step}
  {ks : List Location}

theorem lookups_of_checkPath (hc : checkPath p = .ok ()) :
    fs.lookups p = fs.lookupsOn linkLimit (startOf fs.cwd p) p.steps := by
  unfold lookups
  rw [hc]

/-! ## 3. What a walk depends on -/

/-- **A walk depends on what it looks up**, on the directories in which it does so, and on what
    stands where it starts. -/
theorem walk_of_agree (hdir : ∀ x, fs.isDirAt x = true → fs'.isDirAt x = true)
    (hstart : fs.isDirAt l = false → fs'.get? l = fs.get? l)
    (hget : ∀ x ∈ fs.lookupsOn n l steps, fs'.get? x = fs.get? x) :
    fs'.walk true n l steps = fs.walk true n l steps := by
  have of_dir {l : Location} (hl : fs.isDirAt l = true) :
      fs.isDirAt l = false → fs'.get? l = fs.get? l := fun hl' => by
    rw [hl] at hl'
    cases hl'
  induction n, l, steps using walk_induction fs with
  | nil n l => rw [walk_nil, walk_nil]
  | notDirectory hl =>
    have hl' := (isDirAt_congr (hstart hl)).trans hl
    rw [walk_notDirectory hl, walk_notDirectory hl', noDirectory_congr (hstart hl)]
  | here hl ih =>
    rw [lookupsOn_here hl] at hget
    rw [walk_here hl, walk_here (hdir _ hl), ih (of_dir hl) hget]
  | up hl ih =>
    rw [lookupsOn_up hl] at hget
    rw [walk_up hl, walk_up (hdir _ hl),
      ih (of_dir (isDirAt_tail (get?_isSome_of_isDirAt hl))) hget]
  | tooLong hl hn => rw [walk_tooLong hl hn, walk_tooLong (hdir _ hl) hn]
  | absent hl hn he =>
    rw [lookupsOn_absent hl hn he, List.forall_mem_singleton] at hget
    rw [walk_absent hl hn he, walk_absent (hdir _ hl) hn (hget.trans he)]
  | entry hl hn he hlink ih =>
    rw [lookupsOn_entry hl hn he hlink, List.forall_mem_cons] at hget
    rw [walk_entry hl hn he hlink, walk_entry (hdir _ hl) hn (hget.1.trans he) hlink,
      ih (fun _ => hget.1) hget.2]
  | lastLink hl hn he =>
    rw [lookupsOn_lastLink hl hn he, List.forall_mem_singleton] at hget
    rw [walk_link hl hn he, walk_link (hdir _ hl) hn (hget.trans he)]
    rfl
  | link hl hn he ih =>
    rw [lookupsOn_link hl hn he, List.forall_mem_cons] at hget
    rw [walk_link hl hn he, walk_link (hdir _ hl) hn (hget.1.trans he)]
    exact ih (of_dir (isDirAt_startOf hl _)) hget.2

/-- A route ends in a directory or where it has looked something up, if it starts in a directory. -/
theorem Route.mem_lookupsOn (h : Route fs l steps ks m) (hk : ks.length ≤ n)
    (hl : fs.isDirAt l = true) (hm : fs.isDirAt m = false) : m ∈ fs.lookupsOn n l steps := by
  induction h generalizing n with
  | done l =>
    rw [hl] at hm
    cases hm
  | here hl' _ ih =>
    rw [lookupsOn_here hl']
    exact ih hk hl hm
  | up hl' _ ih =>
    rw [lookupsOn_up hl']
    exact ih hk (isDirAt_tail (get?_isSome_of_isDirAt hl)) hm
  | @entry l m name rest ks e hl' hn he hlink hr ih =>
    rw [lookupsOn_entry hl' hn he hlink]
    cases rest with
    | nil =>
      cases hr
      exact List.mem_cons_self
    | cons step rest => exact List.mem_cons_of_mem _ (ih hk hr.isDirAt_of_cons hm)
  | @link l m name rest ks target hl' hn he hr ih =>
    obtain ⟨n, rfl⟩ : ∃ k, n = k + 1 := ⟨n - 1, by simp at hk; omega⟩
    rw [lookupsOn_link hl' hn he]
    exact List.mem_cons_of_mem _ (ih (Nat.le_of_succ_le_succ hk) (isDirAt_startOf hl' target) hm)

/-- A path leads to a directory, or to what it has looked up. -/
theorem mem_lookups_of_find (h : fs.find p = .ok m) (hm : fs.isDirAt m = false) :
    m ∈ fs.lookups p := by
  obtain ⟨hc, hw⟩ := find_eq_ok_iff.mp h
  obtain ⟨ks, hk, hr⟩ := exists_route hw
  rw [lookups_of_checkPath hc]
  refine hr.mem_lookupsOn hk ?_ hm
  cases hs : p.steps with
  | nil =>
    refine absurd hs (Path.steps_ne_nil fun hnil => ?_)
    have := (checkPath_eq_ok_iff.mp hc).1
    simp [checkBytes, hnil] at this
  | cons step rest =>
    rw [hs] at hr
    exact hr.isDirAt_of_cons

/-- **What a path reads as depends on what it looks up**, and on the directories in which it does
    so. -/
theorem read_of_agree (hcwd : fs'.cwd = fs.cwd)
    (hdir : ∀ x, fs.isDirAt x = true → fs'.isDirAt x = true)
    (hget : ∀ x ∈ fs.lookups p, fs'.get? x = fs.get? x) : fs'.read p = fs.read p := by
  cases hc : checkPath p with
  | error e => rw [read_of_checkPath_error hc, read_of_checkPath_error hc]
  | ok u =>
    have hfind : fs'.find p = fs.find p := by
      unfold find locate
      rw [hc, hcwd]
      simp only [bind, Except.bind]
      rw [walk_of_agree hdir (get?_startOf fs') (lookups_of_checkPath hc ▸ hget)]
    unfold read
    rw [hfind]
    cases hf : fs.find p with
    | error e => rfl
    | ok m =>
      simp only [bind, Except.bind]
      by_cases hm : fs.isDirAt m = true
      · obtain ⟨mode, he⟩ := exists_dir hm
        obtain ⟨mode', he'⟩ := exists_dir (hdir m hm)
        rw [he, he']
      · rw [hget m (mem_lookups_of_find hf (by simpa using hm))]

/-! ## 4. A file that has landed somewhere -/

/-- The trees differ in one place, where the second one has a file and the first one no
    directory. -/
structure Landed (fs fs' : FileSystem) (m : Location) (data : Bytes) : Prop where
  cwd : fs'.cwd = fs.cwd
  other : ∀ x, x ≠ m → fs'.get? x = fs.get? x
  not_isDirAt : fs.isDirAt m = false
  file : ∃ mode, fs'.get? m = some (.file mode data)

namespace Landed

variable {data : Bytes} (h : Landed fs fs' m data)
include h

theorem isDirAt_eq (x : Location) : fs'.isDirAt x = fs.isDirAt x := by
  by_cases hx : x = m
  · obtain ⟨mode, hfile⟩ := h.file
    rw [hx, h.not_isDirAt, not_isDirAt_of_file hfile]
  · unfold isDirAt
    rw [h.other x hx]

/-- **A path that does not look the place up reads as before.** -/
theorem read_eq (hm : m ∉ fs.lookups p) : fs'.read p = fs.read p :=
  read_of_agree h.cwd (fun x hx => (h.isDirAt_eq x).trans hx) fun x hx =>
    h.other x fun hxm => hm (hxm ▸ hx)

/-- A walk that looks the place up stops at the file. -/
theorem walk_on (hm : m ∈ fs.lookupsOn n l steps) :
    fs'.walk true n l steps = .error .notDirectory ∨ fs'.walk true n l steps = .ok (.found m) := by
  have stops {n : Nat} {l : Location} {name : Name} {rest : List Step}
      (hl : fs.isDirAt l = true) (hn : name.length ≤ nameLimit) (hm : name :: l = m) :
      fs'.walk true n l (.down name :: rest) = .error .notDirectory ∨
        fs'.walk true n l (.down name :: rest) = .ok (.found m) := by
    subst hm
    obtain ⟨mode, hfile⟩ := h.file
    rw [walk_entry ((h.isDirAt_eq l).trans hl) hn hfile (by simp)]
    cases rest with
    | nil => exact .inr walk_nil
    | cons step rest =>
      refine .inl ?_
      rw [walk_notDirectory (not_isDirAt_of_file hfile), noDirectory_of_some hfile]
  induction n, l, steps using walk_induction fs with
  | nil n l => simp [lookupsOn_nil] at hm
  | notDirectory hl => simp [lookupsOn_notDirectory hl] at hm
  | here hl ih =>
    rw [lookupsOn_here hl] at hm
    rw [walk_here ((h.isDirAt_eq _).trans hl)]
    exact ih hm
  | up hl ih =>
    rw [lookupsOn_up hl] at hm
    rw [walk_up ((h.isDirAt_eq _).trans hl)]
    exact ih hm
  | tooLong hl hn => simp [lookupsOn_tooLong hl hn] at hm
  | absent hl hn he =>
    rw [lookupsOn_absent hl hn he, List.mem_singleton] at hm
    exact stops hl hn hm.symm
  | @entry n l name rest e hl hn he hlink ih =>
    rw [lookupsOn_entry hl hn he hlink] at hm
    by_cases hx : name :: l = m
    · exact stops hl hn hx
    · rw [walk_entry ((h.isDirAt_eq _).trans hl) hn ((h.other _ hx).trans he) hlink]
      exact ih ((List.mem_cons.mp hm).resolve_left (Ne.symm hx))
  | lastLink hl hn he =>
    rw [lookupsOn_lastLink hl hn he, List.mem_singleton] at hm
    exact stops hl hn hm.symm
  | @link n l name rest target hl hn he ih =>
    rw [lookupsOn_link hl hn he] at hm
    by_cases hx : name :: l = m
    · exact stops hl hn hx
    · rw [walk_link ((h.isDirAt_eq _).trans hl) hn ((h.other _ hx).trans he)]
      exact ih ((List.mem_cons.mp hm).resolve_left (Ne.symm hx))

/-- **A path that looks the place up reads as the file, or is stopped by it.** -/
theorem read_on (hm : m ∈ fs.lookups p) :
    fs'.read p = .error .notDirectory ∨ fs'.read p = .ok data := by
  unfold lookups at hm
  split at hm
  · rename_i hc
    rw [← h.cwd] at hm
    rcases h.walk_on hm with hw | hw
    · exact .inl (read_of_walk_error hc hw)
    · obtain ⟨mode, hfile⟩ := h.file
      exact .inr (read_eq_ok_iff.mpr ⟨m, mode, find_eq_ok_iff.mpr ⟨hc, hw⟩, hfile⟩)
  · cases hm

end Landed

/-- What a replacement that succeeds leaves is the prepared tree with the new file. -/
theorem Replaced.landed {name : Name} {data : Bytes} (h : Replaced fs p data fs' l name) :
    Landed (fs.prepared p) fs' (name :: l) data where
  cwd := h.cwd.trans (grownBy_prepared fs p).cwd.symm
  other := fun _ => h.get?_other
  not_isDirAt := h.not_isDirAt
  file := h.get?_landing

/-! ## 5. Grown trees -/

/-- **A path reads as before in a grown tree** if nothing new stands where it looks. -/
theorem read_of_grownBy_of_lookups (hgrown : GrownBy fs fs')
    (hget : ∀ x ∈ fs.lookups p, fs'.get? x = fs.get? x) : fs'.read p = fs.read p :=
  read_of_agree hgrown.cwd (fun _ => hgrown.isDirAt) hget

theorem Route.lookupsOn_of_grownBy (hgrown : GrownBy fs fs') (h : Route fs l steps ks m)
    (hk : ks.length ≤ n) : fs'.lookupsOn n l steps = fs.lookupsOn n l steps := by
  induction h generalizing n with
  | done l => rw [lookupsOn_nil, lookupsOn_nil]
  | here hl _ ih => rw [lookupsOn_here hl, lookupsOn_here (hgrown.isDirAt hl), ih hk]
  | up hl _ ih => rw [lookupsOn_up hl, lookupsOn_up (hgrown.isDirAt hl), ih hk]
  | entry hl hn he hlink _ ih =>
    rw [lookupsOn_entry hl hn he hlink,
      lookupsOn_entry (hgrown.isDirAt hl) hn (hgrown.kept he) hlink, ih hk]
  | @link l m name rest ks target hl hn he _ ih =>
    obtain ⟨n, rfl⟩ : ∃ k, n = k + 1 := ⟨n - 1, by simp at hk; omega⟩
    rw [lookupsOn_link hl hn he, lookupsOn_link (hgrown.isDirAt hl) hn (hgrown.kept he),
      ih (Nat.le_of_succ_le_succ hk)]

/-- **A path that leads to a file looks up the same in a grown tree.** -/
theorem lookups_of_grownBy {data : Bytes} (hgrown : GrownBy fs fs') (h : fs.read p = .ok data) :
    fs'.lookups p = fs.lookups p := by
  obtain ⟨m, mode, hf, -⟩ := read_eq_ok_iff.mp h
  obtain ⟨hc, hw⟩ := find_eq_ok_iff.mp hf
  obtain ⟨ks, hk, hr⟩ := exists_route hw
  rw [lookups_of_checkPath hc, lookups_of_checkPath hc, hgrown.cwd,
    hr.lookupsOn_of_grownBy hgrown hk]

end DeviceKeys.FileSystem
