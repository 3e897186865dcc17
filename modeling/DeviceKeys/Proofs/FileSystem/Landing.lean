import DeviceKeys.Proofs.FileSystem.Lookups
import DeviceKeys.Proofs.FileSystem.Varying

/-! # The one file that a replacement gives

A replacement that succeeds gives the tree one file. `replace_gives_one_file` says all about it:

* **where**: the file that the path leads to, or else the place of the last component of the path in
  the directory to which the others lead, once the missing directories have been made;
* **its permission bits**: those of the file whose place it takes, and those of a temporary file
  where nothing stood. Where it takes the place of a link, they are those of whatever the link leads
  to by then (`replace_takes_bits_of_directory`);
* **what else is new**: directories that the path in front of its last component names;
* **when the path reads as it**.
-/

namespace DeviceKeys.FileSystem

open DeviceKeys.Path (Step Name)

variable {fs fs' : FileSystem} {l m t x : Location} {p q : Path} {data : Bytes} {name : Name}

/-! ## 1. Beside a new file -/

namespace Landed

variable (h : Landed fs fs' t data)
include h

/-- A path that leads to something leads to it beside a new file. -/
theorem find_of_find (ht : fs.get? t = none) (hf : fs.find q = .ok m) :
    fs'.find q = .ok m ∧ fs'.get? m = fs.get? m := by
  obtain ⟨hc, hw⟩ := find_eq_ok_iff.mp hf
  obtain ⟨e, he, hlink⟩ := exists_entry_of_walk (checkPath_eq_ok_iff.mp hc).1 hw
  have hget : fs'.get? m = fs.get? m := h.other m fun hm => by
    rw [hm, ht] at he
    cases he
  obtain ⟨ks, hk, hr⟩ := exists_route hw
  have hr' : Route fs' (startOf fs.cwd q) q.steps ks m := by
    refine hr.transfer (fun y hy => (h.isDirAt_eq y).trans hy) (fun y hy => h.other y fun hyt => ?_)
      fun _ => ⟨e, hget.trans he, hlink⟩
    obtain ⟨target, hl⟩ := hr.link_of_mem hy
    rw [hyt, ht] at hl
    cases hl
  refine ⟨find_eq_ok_iff.mpr ⟨hc, ?_⟩, hget⟩
  rw [h.cwd]
  exact walk_of_route hr' hk

/-- A path that leads to something else than the new file led to it before. -/
theorem find_of_ne (hf : fs'.find q = .ok m) (hm : m ≠ t) : fs.find q = .ok m := by
  obtain ⟨hc, hw⟩ := find_eq_ok_iff.mp hf
  obtain ⟨e, he, hlink⟩ := exists_entry_of_walk (checkPath_eq_ok_iff.mp hc).1 hw
  obtain ⟨ks, hk, hr⟩ := exists_route hw
  have hr' : Route fs (startOf fs'.cwd q) q.steps ks m := by
    refine hr.transfer (fun y hy => (h.isDirAt_eq y).symm.trans hy)
      (fun y hy => (h.other y fun hyt => ?_).symm) fun _ => ⟨e, (h.other m hm).symm.trans he, hlink⟩
    obtain ⟨target, hl⟩ := hr.link_of_mem hy
    obtain ⟨mode, hfile⟩ := h.file
    rw [hyt, hfile] at hl
    cases hl
  refine find_eq_ok_iff.mpr ⟨hc, ?_⟩
  rw [← h.cwd]
  exact walk_of_route hr' hk

/-- The permission bits of what a path leads to, where those of the new file stand for none. -/
theorem getD_mode? {mode : Nat} (ht : fs.get? t = none)
    (hfile : fs'.get? t = some (.file mode data)) (q : Path) :
    (fs'.mode? q).getD mode = (fs.mode? q).getD mode := by
  cases hf : fs.find q with
  | ok m =>
    obtain ⟨hf', hget⟩ := h.find_of_find ht hf
    simp only [mode?, stat?, hf, hf', hget]
  | error e =>
    have hnone : fs.mode? q = none := by simp [mode?, stat?, hf]
    rw [hnone]
    cases hf' : fs'.find q with
    | error e' => simp [mode?, stat?, hf']
    | ok m =>
      by_cases hm : m = t
      · simp [mode?, stat?, hf', hm, hfile, modeOf]
      · rw [h.find_of_ne hf' hm] at hf
        cases hf

end Landed

/-! ## 2. The permission bits -/

/-- The permission bits of the file that a replacement gives. -/
def landingMode (fs : FileSystem) (p : Path) : Nat :=
  ((fs.prepared p).mode? (fs.replaceTarget p)).getD temporaryMode

theorem get?_setBits_self {mode : Nat} (h : fs.get? l = some (.file mode data))
    (bits : Option Nat) : (fs.setBits l bits).get? l = some (.file (bits.getD mode) data) := by
  unfold setBits
  rw [h]
  cases bits with
  | some mode' => simp only [get?_put (fits_of_some h rfl _), if_true, Option.getD_some]
  | none => exact h

/-- The temporary file gets the bits of what the target names beside it, or keeps its own. -/
theorem get?_filled_self {temporary : Temporary} {fs₁ fs₂ : FileSystem}
    (h : fs.createTemporary q = .ok (temporary, fs₁))
    (hfill : fs₁.fill temporary p data = .ok fs₂) :
    fs₂.get? temporary.place = some (.file ((fs.mode? p).getD temporaryMode) data) := by
  obtain ⟨hnone, hfits, rfl⟩ := createTemporary_eq_ok h
  obtain rfl := fill_eq_ok hfill
  have hput := get?_put hfits
  have happ := get?_append (by rw [hput, if_pos rfl]) data
  have hfile := (happ temporary.place).trans (if_pos rfl)
  have hlanded : Landed fs ((fs.put temporary.place (.file temporaryMode [])).append
      temporary.place data) temporary.place data := by
    refine ⟨by rw [cwd_append, cwd_put], fun y hy => ?_, not_isDirAt_of_none hnone, _, hfile⟩
    rw [happ, if_neg hy, hput, if_neg hy]
  rw [get?_setBits_self hfile, hlanded.getD_mode? hnone hfile]
  rfl

/-- **The permission bits of the new file** are those of what the target leads to, once the missing
    directories have been made. -/
theorem Replaced.get?_landing_eq (h : Replaced fs p data fs' l name)
    (hrep : fs.replace p data = (.ok (), fs')) :
    fs'.get? (name :: l) = some (.file (fs.landingMode p) data) := by
  obtain ⟨temporary, fs₁, fs₂, htemp, hfill, hren⟩ := exists_steps hrep
  have hwritten := get?_filled_self htemp hfill
  obtain ⟨⟨mode, hget⟩, hcwd⟩ := exists_written htemp hfill
  obtain ⟨l', name', e, hf, hlen, -, hdir, he, rfl⟩ := rename_eq_ok hren
  cases h.holder.symm.trans (findHolder_of_file hget hcwd hf)
  obtain ⟨-, -, hl, -⟩ := findHolder_eq_ok hf
  rw [hwritten] at he
  cases he
  rw [get?_moved hwritten hl (isNamed_of_findHolder hf hlen) hdir, if_pos rfl]
  rfl

/-! ## 3. The place -/

/-- The path, followed name by name, leads to a file. -/
def LeadsToFile (fs : FileSystem) (p : Path) (m : Location) : Prop :=
  checkBytes p = .ok () ∧
    fs.walk true linkLimit (startOf fs.cwd p) p.steps = .ok (.found m) ∧
      ∃ mode data, fs.get? m = some (.file mode data)

/-- A path leads to what its last component names, if that is no link. -/
theorem find_of_holder {e : Entry} (hh : fs.findHolder p = .ok (l, some (.down name)))
    (hslash : p.endsInSlash = false) (hlen : name.length ≤ nameLimit)
    (he : fs.get? (name :: l) = some e) (hlink : ∀ t, e ≠ .link t) :
    fs.find p = .ok (name :: l) := by
  obtain ⟨hc, hw, hl, hlast⟩ := findHolder_eq_ok hh
  obtain ⟨ks, hk, hr⟩ := exists_route hw
  refine find_eq_ok_iff.mpr ⟨hc, ?_⟩
  rw [Path.steps_of_getLast? hlast.symm, walk_route hr hk, hslash, walk_entry hl hlen he hlink]
  exact walk_nil

namespace Replaced

variable (h : Replaced fs p data fs' l name)
include h

/-- Where a file or a link stands in the prepared tree, it stood all along. -/
theorem get?_prepared : (fs.prepared p).get? (name :: l) = fs.get? (name :: l) := by
  have hgrown := grownBy_prepared fs p
  cases he : fs.get? (name :: l) with
  | some e => exact hgrown.kept he
  | none =>
    cases hp : (fs.prepared p).get? (name :: l) with
    | none => rfl
    | some e =>
      have hdir := h.not_isDirAt
      unfold FileSystem.isDirAt at hdir
      rw [hp, Option.any_some, hgrown.isDir_new he hp] at hdir
      cases hdir

theorem not_isDirAt_before : fs.isDirAt (name :: l) = false := by
  have hdir := h.not_isDirAt
  unfold FileSystem.isDirAt at hdir ⊢
  rwa [h.get?_prepared] at hdir

theorem findHolder_eq (ht : fs.replaceTarget p = p) :
    (fs.prepared p).findHolder p = .ok (l, some (.down name)) := by
  have hh := h.holder
  rwa [ht] at hh

/-- A path that leads to no file, or to one whose own path is too long, stands for itself. -/
theorem target_eq (hnot : ∀ m, LeadsToFile fs p m → ¬fs.Resolvable p) :
    fs.replaceTarget p = p := by
  rcases replaceTarget_cases fs p with ⟨m, hc, hw, hres, ht⟩ | ht
  · -- what is resolved is the place of the new file, so it is a file
    exfalso
    obtain ⟨rfl, -, -⟩ := h.read_of_resolved hc hw ht
    obtain ⟨e, he, hlink⟩ := exists_entry_of_walk hc hw
    have hdir := h.not_isDirAt_before
    cases e with
    | dir mode =>
      rw [isDirAt_of_get? he] at hdir
      cases hdir
    | link target => exact hlink target rfl
    | file mode old => exact hnot _ ⟨hc, hw, mode, old, he⟩ hres
  · exact ht

/-- **The place of the new file** is that of the file that the path leads to, unless the path cannot
    be resolved and its last component is a link. -/
theorem eq_iff_of_leadsToFile (hm : LeadsToFile fs p m) : name :: l = m ↔
    fs.Resolvable p ∨ ∀ target, fs.get? (name :: l) ≠ some (.link target) := by
  obtain ⟨hc, hw, mode, old, he⟩ := hm
  have htarget := replaceTarget_of_walk hc hw
  constructor
  · rintro rfl
    refine .inr fun target hlink => ?_
    rw [he] at hlink
    cases hlink
  by_cases hres : fs.Resolvable p
  · rw [if_pos hres] at htarget
    exact fun _ => (h.read_of_resolved hc hw htarget).1
  · rw [if_neg hres] at htarget
    rintro (hres' | hne)
    · exact absurd hres' hres
    have hslash := h.endsInSlash
    rw [htarget] at hslash
    obtain ⟨ks, hlast⟩ := exists_last_route (grownBy_prepared fs p) hw ⟨_, he, by simp⟩
      (h.findHolder_eq htarget)
    rw [hslash] at hlast
    cases hlast with
    | entry _ _ _ _ hend =>
      cases hend
      rfl
    | link _ _ hlink _ =>
      rw [h.get?_prepared] at hlink
      exact absurd hlink (hne _)

/-! ## 4. The permission bits in each case -/

theorem landingMode_of_file {mode : Nat} {old : Bytes}
    (hfile : fs.get? (name :: l) = some (.file mode old)) : fs.landingMode p = mode := by
  have hf := find_of_holder h.holder h.endsInSlash h.length_le (h.get?_prepared.trans hfile)
    (by simp)
  simp [landingMode, mode?, stat?, hf, h.get?_prepared, hfile, modeOf]

/-- Where nothing stood the target leads to nothing. -/
theorem landingMode_of_none (hnone : fs.get? (name :: l) = none) :
    fs.landingMode p = temporaryMode := by
  have hp := h.get?_prepared.trans hnone
  have hf : ∀ m, (fs.prepared p).find (fs.replaceTarget p) ≠ .ok m := by
    intro m hf
    obtain ⟨hc, hw⟩ := find_eq_ok_iff.mp hf
    obtain ⟨ks, hr⟩ := exists_last_route (.refl (fs.prepared p)) hw
      (exists_entry_of_walk (checkPath_eq_ok_iff.mp hc).1 hw) h.holder
    cases hr with
    | entry _ _ he _ _ | link _ _ he _ =>
      rw [hp] at he
      cases he
  cases hf' : (fs.prepared p).find (fs.replaceTarget p) with
  | ok m => exact absurd hf' (hf m)
  | error e => simp [landingMode, mode?, stat?, hf']

/-- A link is replaced only where the path stands for itself. -/
theorem landingMode_of_link {target : Path}
    (hlink : fs.get? (name :: l) = some (.link target)) :
    fs.landingMode p = ((fs.prepared p).mode? p).getD temporaryMode := by
  rcases replaceTarget_cases fs p with ⟨m, hc, hw, -, ht⟩ | ht
  · obtain ⟨rfl, -, -⟩ := h.read_of_resolved hc hw ht
    obtain ⟨e, he, hne⟩ := exists_entry_of_walk hc hw
    rw [hlink] at he
    cases he
    exact absurd rfl (hne target)
  · unfold landingMode
    rw [ht]

end Replaced

/-! ## 5. New directories -/

/-- The second tree comes from the first one by making directories, one after the other, each at one
    of the paths. -/
inductive Makes (ps : List Path) : FileSystem → FileSystem → Prop
  | done (fs : FileSystem) : Makes ps fs fs
  | step {fs fs' fs'' : FileSystem} {q : Path} (hq : q ∈ ps) (made : fs.makeDir q = .ok fs')
      (rest : Makes ps fs' fs'') : Makes ps fs fs''

/-- A path that leads to a directory leads to it in a grown tree. -/
theorem GrownBy.find_dir (h : GrownBy fs fs') (hf : fs.find q = .ok x)
    (hx : fs.isDirAt x = true) : fs'.find q = .ok x := by
  obtain ⟨hc, hw⟩ := find_eq_ok_iff.mp hf
  obtain ⟨ks, hk, hr⟩ := exists_route hw
  obtain ⟨mode, hmode⟩ := exists_dir hx
  refine find_eq_ok_iff.mpr ⟨hc, ?_⟩
  rw [h.cwd]
  exact walk_of_route (h.route hr ⟨_, hmode, by simp⟩) hk

/-- A directory that is made is what its path leads to. -/
theorem find_of_makeDir (h : fs.makeDir q = .ok fs') (hx : fs.get? x = none)
    (hdir : fs'.isDirAt x = true) : fs'.find q = .ok x := by
  have hgrown := grownBy_makeDir h
  obtain ⟨l, name, hh, hlen, -, hfits, hfs⟩ := makeDir_eq_ok h
  obtain ⟨hc, hw, hl, hlast⟩ := findHolder_eq_ok hh
  have hget := get?_put (hfits (.dir newDirMode))
  have hxl : x = name :: l := by
    by_cases hne : x = name :: l
    · exact hne
    · rw [hfs, isDirAt, hget, if_neg hne, hx] at hdir
      cases hdir
  subst hxl
  -- the path leads to the holder as before, and from there to the new directory
  obtain ⟨ks, hk, hr⟩ := exists_route hw
  obtain ⟨mode, hmode⟩ := exists_dir hl
  have hr' := hgrown.route hr ⟨_, hmode, by simp⟩
  obtain ⟨mode', hmode'⟩ := exists_dir hdir
  refine find_eq_ok_iff.mpr ⟨hc, ?_⟩
  rw [hgrown.cwd, Path.steps_of_getLast? hlast.symm, walk_route hr' hk,
    walk_entry (hgrown.isDirAt hl) hlen hmode' (by simp)]
  split
  · rw [walk_here hdir, walk_nil]
  · exact walk_nil

namespace Makes

variable {ps : List Path} {fs'' : FileSystem}

theorem trans (h : Makes ps fs fs') (k : Makes ps fs' fs'') : Makes ps fs fs'' := by
  induction h with
  | done fs => exact k
  | step hq made _ ih => exact .step hq made (ih k)

theorem mono {ps' : List Path} (h : Makes ps fs fs') (hps : ps ⊆ ps') : Makes ps' fs fs' := by
  induction h with
  | done fs => exact .done fs
  | step hq made _ ih => exact .step (hps hq) made ih

theorem grownBy (h : Makes ps fs fs') : GrownBy fs fs' := by
  induction h with
  | done fs => exact .refl fs
  | step _ made _ ih => exact (grownBy_makeDir made).trans ih

/-- **Each directory that is made** is what one of the paths leads to. -/
theorem exists_path (h : Makes ps fs fs') (hx : fs.get? x = none) (hdir : fs'.isDirAt x = true) :
    ∃ q ∈ ps, fs'.find q = .ok x := by
  induction h with
  | done fs =>
    rw [not_isDirAt_of_none hx] at hdir
    cases hdir
  | @step fs fs₁ fs' q hq made rest ih =>
    cases hx₁ : fs₁.get? x with
    | none => exact ih hx₁ hdir
    | some e =>
      have hdir₁ : fs₁.isDirAt x = true := by
        simp [isDirAt, hx₁, (grownBy_makeDir made).isDir_new hx hx₁]
      exact ⟨q, hq, rest.grownBy.find_dir (find_of_makeDir made hx hdir₁) hdir₁⟩

/-- Where none of the paths can be made nothing is made. -/
theorem eq_of_none (h : Makes ps fs fs') (hnone : ∀ q ∈ ps, ∀ fs₁, fs.makeDir q ≠ .ok fs₁) :
    fs' = fs := by
  cases h with
  | done => rfl
  | step hq made _ => exact absurd made (hnone _ hq _)

end Makes

theorem makes_climb : ∀ (ps todo : List Path) (fs : FileSystem),
    Makes ps fs (climb ps todo fs).2 ∧
      ∀ todo', (climb ps todo fs).1 = .ok todo' → todo' ⊆ ps ++ todo
  | [], todo, fs => ⟨.done fs, fun todo' h => by cases h; exact List.Subset.refl _⟩
  | q :: ps, todo, fs => by
    have hkeep : todo ⊆ q :: ps ++ todo := List.subset_append_right _ _
    unfold climb
    split
    · exact ⟨.done fs, fun todo' h => by cases h; exact hkeep⟩
    split
    · rename_i fs' hmake
      exact ⟨.step List.mem_cons_self hmake (.done fs'), fun todo' h => by cases h; exact hkeep⟩
    · obtain ⟨hmakes, htodo⟩ := makes_climb ps (q :: todo) fs
      refine ⟨hmakes.mono (List.subset_cons_self q ps), fun todo' h => ?_⟩
      exact List.Subset.trans (htodo todo' h) List.perm_middle.subset
    · split
      · exact ⟨.done fs, fun todo' h => by cases h; exact hkeep⟩
      · exact ⟨.done fs, fun todo' h => by cases h⟩

theorem makes_descend : ∀ (ps : List Path) (fs : FileSystem), Makes ps fs (descend ps fs).2
  | [], fs => .done fs
  | q :: ps, fs => by
    have ih (fs : FileSystem) : Makes (q :: ps) fs (descend ps fs).2 :=
      (makes_descend ps fs).mono (List.subset_cons_self q ps)
    unfold descend
    split
    · rename_i fs' hmake
      exact .step List.mem_cons_self hmake (ih fs')
    · split
      · exact ih fs
      · exact .done fs

/-- The directories that are made for a path are made at it and the paths in front of it. -/
theorem makes_makeDirs (fs : FileSystem) (p : Path) : Makes p.ancestors fs (fs.makeDirs p).2 := by
  obtain ⟨hclimb, htodo⟩ := makes_climb p.ancestors [] fs
  unfold makeDirs
  split
  · rename_i todo fs' hc
    rw [hc] at hclimb htodo
    have hsub : todo ⊆ p.ancestors := by simpa using htodo todo rfl
    exact hclimb.trans ((makes_descend todo fs').mono hsub)
  · rename_i e fs' hc
    rw [hc] at hclimb
    exact hclimb

/-- **The directories that a replacement makes** are made at the paths in front of its last
    component; none are where the path leads to something. -/
theorem makes_prepared (fs : FileSystem) (p : Path) :
    Makes (holderPath p).ancestors fs (fs.prepared p) := by
  have hmakes := makes_makeDirs fs (holderPath (fs.replaceTarget p))
  rcases replaceTarget_cases fs p with ⟨m, hc, hw, -, ht⟩ | ht
  · obtain ⟨e, he, -⟩ := exists_entry_of_walk hc hw
    have hstands : Stands fs (fs.replaceTarget p) := ht ▸ stands_pathTo (by simp [he])
    have hsame : fs.prepared p = fs := hmakes.eq_of_none fun q hq fs₁ => hstands.makeDir_ne_ok hq
    rw [hsame]
    exact .done fs
  · rw [ht] at hmakes
    unfold prepared
    rw [ht]
    exact hmakes

/-! ## 6. The file that a replacement gives -/

/-- All that a replacement of the file of a path changes: there is a file in one place. -/
structure Gives (fs : FileSystem) (p : Path) (data : Bytes) (fs' : FileSystem) (k : Location)
    (mode : Nat) : Prop where
  file : fs'.get? k = some (.file mode data)
  /-- The file takes the place of nothing, of a file or of a link. -/
  not_isDirAt : fs.isDirAt k = false
  kept : ∀ {x : Location} {e : Entry}, x ≠ k → fs.get? x = some e → fs'.get? x = some e
  /-- Whatever else is new is a directory that a path in front of the last component names. -/
  new : ∀ {x : Location} {e : Entry}, x ≠ k → fs.get? x = none → fs'.get? x = some e →
    e.isDir = true ∧ ∃ q ∈ (holderPath p).ancestors, (fs.prepared p).find q = .ok x
  cwd : fs'.cwd = fs.cwd
  /-- The place is that of the file that the path led to, if the path could be resolved. -/
  place_of_file : ∀ {m : Location}, LeadsToFile fs p m → (k = m ↔
    fs.Resolvable p ∨ ∀ target, fs.get? k ≠ some (.link target))
  /-- Otherwise it is that of the last component in the directory to which the others lead. -/
  place_of_name : (∀ m, LeadsToFile fs p m → ¬fs.Resolvable p) →
    ∃ d name, k = name :: d ∧ (fs.prepared p).findHolder p = .ok (d, some (.down name))
  mode_of_file : ∀ {bits : Nat} {old : Bytes}, fs.get? k = some (.file bits old) → mode = bits
  mode_of_none : fs.get? k = none → mode = temporaryMode
  mode_of_link : ∀ {target : Path}, fs.get? k = some (.link target) →
    mode = ((fs.prepared p).mode? p).getD temporaryMode
  /-- The path reads as the file, unless it is too long to be opened or has lost a link. -/
  read_iff : fs'.read p = .ok data ↔ p.bytes.length < pathLimit ∧ fs.severs p = false

theorem Replaced.gives (h : Replaced fs p data fs' l name)
    (hrep : fs.replace p data = (.ok (), fs')) :
    Gives fs p data fs' (name :: l) (fs.landingMode p) :=
  have hmakes := makes_prepared fs p
  { file := h.get?_landing_eq hrep
    not_isDirAt := h.not_isDirAt_before
    kept := fun hx he => (h.get?_other hx).trans (hmakes.grownBy.kept he)
    new := fun hx hnone he => by
      rw [h.get?_other hx] at he
      have hdir := hmakes.grownBy.isDir_new hnone he
      exact ⟨hdir, hmakes.exists_path hnone (by simp [FileSystem.isDirAt, he, hdir])⟩
    cwd := h.cwd
    place_of_file := h.eq_iff_of_leadsToFile
    place_of_name := fun hnot => ⟨l, name, rfl, h.findHolder_eq (h.target_eq hnot)⟩
    mode_of_file := h.landingMode_of_file
    mode_of_none := h.landingMode_of_none
    mode_of_link := h.landingMode_of_link
    read_iff := h.read_ok_iff }

/-- **A replacement that succeeds gives the tree one file**, and makes the missing directories in
    front of it; everything else is as it was. -/
theorem replace_gives_one_file (h : fs.replace p data = (.ok (), fs')) :
    ∃ k mode, fs.landing? p = some k ∧ Gives fs p data fs' k mode := by
  obtain ⟨l, name, hr⟩ := replace_eq_ok h
  exact ⟨name :: l, fs.landingMode p, hr.landing?_eq, hr.gives h⟩

/-- A file `keys.json` that everyone may read, and a link to it. -/
def linkedFile : FileSystem :=
  (FileSystem.empty.put [Utf8.ofString "keys.json"] (.file 0o644 [])).put [Utf8.ofString "L"]
    (.link (Path.ofString "keys.json"))

/-- A replacement through a link gives the file behind it the new contents, with its bits. -/
theorem replace_gives_linked_file :
    ∃ fs' k mode, linkedFile.replace (Path.ofString "L") [1] = (.ok (), fs') ∧
      Gives linkedFile (Path.ofString "L") [1] fs' k mode ∧
        k = [Utf8.ofString "keys.json"] ∧ mode = 0o644 := by
  have hok : (linkedFile.replace (Path.ofString "L") [1]).1.toBool = true := by decide +kernel
  have hfile : linkedFile.get? [Utf8.ofString "keys.json"] = some (.file 0o644 []) := by
    decide +kernel
  have hleads : LeadsToFile linkedFile (Path.ofString "L") [Utf8.ofString "keys.json"] :=
    ⟨rfl, by rfl, _, _, hfile⟩
  rcases hrep : linkedFile.replace (Path.ofString "L") [1] with ⟨e | u, fs'⟩
  · rw [hrep] at hok
    cases hok
  · obtain ⟨k, mode, -, hgives⟩ := replace_gives_one_file hrep
    obtain rfl := (hgives.place_of_file hleads).mpr (.inl (by decide +kernel))
    exact ⟨fs', _, mode, rfl, hgives, rfl, hgives.mode_of_file hfile⟩

/-- A file system that holds nothing but the link `keys.json` to the missing `new`. -/
def linkToMissing : FileSystem :=
  FileSystem.empty.put [Utf8.ofString "keys.json"] (.link (Path.ofString "new"))

/-- A path that makes what its own last component is a link to. -/
def pathThroughMissing : Path := Path.ofString "new/../keys.json"

/-- A file that takes the place of no other gets the permission bits of a directory. -/
theorem replace_takes_bits_of_directory :
    (linkToMissing.replace pathThroughMissing [1]).1 = .ok () ∧
      linkToMissing.get? [Utf8.ofString "keys.json"] = some (.link (Path.ofString "new")) ∧
      (linkToMissing.replace pathThroughMissing [1]).2.get? [Utf8.ofString "keys.json"] =
        some (.file 0o755 [1]) :=
  ⟨by rfl, by decide +kernel, by decide +kernel⟩

end DeviceKeys.FileSystem
