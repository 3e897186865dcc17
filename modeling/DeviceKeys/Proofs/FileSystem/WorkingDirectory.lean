import Mathlib.Data.List.TakeWhile
import DeviceKeys.Proofs.FileSystem.Joining
import DeviceKeys.Proofs.FileSystem.Lookups

/-! # Absolute paths from any working directory

A call that is given an absolute path does the same from every working directory that is there: it
has the same result, and leaves the same tree (`find_withCwd`, `makeDirs_withCwd`,
`rename_withCwd`).

The replacement of a file goes by the directory in front of what it replaces, and takes the working
directory if the path has none. Only the top has none (`parent?_replaceTarget_ne_none`), so a file
that can be read, or is not there, is replaced in the same way from everywhere (`replace_withCwd`).
-/

namespace DeviceKeys

open DeviceKeys.Path (Step Name)

/-! ## 1. Paths without a parent -/

/-- An absolute path without a parent is made of dots and slashes. -/
theorem Path.components_of_parent?_none {p : Path} (hp : p.isAbsolute = true)
    (h : p.parent? = none) : ∀ step ∈ p.components, step = .here := by
  have hanchor : p.anchor = [Path.slash] := if_pos hp
  have hidle : ∀ part ∈ Path.splitSlash (p.bytes.drop p.anchor.length),
      Path.isIdle part = true := by
    unfold Path.parent? at h
    split at h
    · cases h
    · rename_i hdrop
      intro part hpart
      exact List.dropWhile_eq_nil_iff.mp hdrop part (List.mem_reverse.mpr hpart)
  have hsteps : p.anchorSteps = [] := by
    unfold Path.anchorSteps
    rw [hanchor]
    rfl
  intro step hstep
  rw [Path.components_eq, hsteps, List.nil_append] at hstep
  obtain ⟨part, hpart, hof⟩ := List.mem_filterMap.mp hstep
  have hpart' : part = [] ∨ part = [Path.dot] := by simpa [Path.isIdle] using hidle part hpart
  rcases hpart' with rfl | rfl
  · cases hof
  · exact (Option.some.inj hof).symm

namespace FileSystem

variable {fs : FileSystem} {p : Path} {d : Location}

/-! ## 2. Looking -/

@[simp] theorem get?_withCwd (fs : FileSystem) (d l : Location) :
    (fs.withCwd d).get? l = fs.get? l := rfl

@[simp] theorem isDirAt_withCwd (fs : FileSystem) (d l : Location) :
    (fs.withCwd d).isDirAt l = fs.isDirAt l := rfl

@[simp] theorem walk_withCwd (fs : FileSystem) (d : Location) (n : Nat) (l : Location)
    (steps : List Step) : (fs.withCwd d).walk true n l steps = fs.walk true n l steps :=
  walk_of_agree (fun _ => id) (fun _ => rfl) (fun _ _ => rfl)

theorem startOf_of_isAbsolute (hp : p.isAbsolute = true) (base : Location) :
    startOf base p = [] := if_pos hp

section Looking

variable (hp : p.isAbsolute = true) (fs : FileSystem) (d : Location)
include hp

theorem find_withCwd : (fs.withCwd d).find p = fs.find p := by
  unfold find locate
  simp only [walk_withCwd, startOf_of_isAbsolute hp]

theorem findHolder_withCwd : (fs.withCwd d).findHolder p = fs.findHolder p := by
  unfold findHolder
  simp only [walk_withCwd, startOf_of_isAbsolute hp]
  rfl

theorem resolvable_withCwd : (fs.withCwd d).Resolvable p ↔ fs.Resolvable p := by
  have hasked : (fs.withCwd d).askedOn linkLimit = fs.askedOn linkLimit :=
    askedOn_congr (fun x => by rw [get?_withCwd]) (fun x t => by rw [get?_withCwd]) linkLimit
  unfold Resolvable asked
  rw [hasked, startOf_of_isAbsolute hp, startOf_of_isAbsolute hp]

theorem replaceTarget_withCwd : (fs.withCwd d).replaceTarget p = fs.replaceTarget p := by
  unfold replaceTarget canonicalize?
  simp only [walk_withCwd, startOf_of_isAbsolute hp, resolvable_withCwd hp]

theorem read_withCwd : (fs.withCwd d).read p = fs.read p := by
  unfold read
  simp only [find_withCwd hp, get?_withCwd]

theorem readText_withCwd : (fs.withCwd d).readText p = fs.readText p := by
  unfold readText
  rw [read_withCwd hp]

theorem stat?_withCwd : (fs.withCwd d).stat? p = fs.stat? p := by
  unfold stat?
  rw [find_withCwd hp]
  rfl

theorem exists?_withCwd : (fs.withCwd d).exists? p = fs.exists? p := by
  unfold exists?
  rw [stat?_withCwd hp]

theorem isDir_withCwd : (fs.withCwd d).isDir p = fs.isDir p := by
  unfold isDir
  rw [stat?_withCwd hp]

theorem mode?_withCwd : (fs.withCwd d).mode? p = fs.mode? p := by
  unfold mode?
  rw [stat?_withCwd hp]

end Looking

/-! ## 3. Changing -/

theorem cwd_withCwd (hd : fs.isDirAt d = true) : (fs.withCwd d).cwd = d := if_pos hd

theorem put_withCwd (hd : fs.isDirAt d = true) (l : Location) (e : Entry) :
    (fs.withCwd d).put l e = (fs.put l e).withCwd d := by
  refine FileSystem.ext ?_ ?_ ?_
  · show ((fs.withCwd d).put l e).entries = (fs.put l e).entries
    unfold put
    by_cases h : fs.Fits l e
    · rw [dif_pos h, dif_pos (show (fs.withCwd d).Fits l e from h)]
      rfl
    · rw [dif_neg h, dif_neg (show ¬(fs.withCwd d).Fits l e from h)]
      rfl
  · rw [cwd_put, cwd_withCwd hd, cwd_withCwd (isDirAt_put hd l e)]
  · rw [chance_put]
    exact (chance_put fs l e).symm

theorem remove_withCwd (hd : fs.isDirAt d = true) (l : Location) :
    (fs.withCwd d).remove l = (fs.remove l).withCwd d := by
  refine FileSystem.ext ?_ ?_ ?_
  · show ((fs.withCwd d).remove l).entries = (fs.remove l).entries
    unfold remove
    by_cases h : fs.isDirAt l = true
    · rw [dif_pos h, dif_pos (show (fs.withCwd d).isDirAt l = true from h)]
      rfl
    · rw [dif_neg h, dif_neg (show ¬(fs.withCwd d).isDirAt l = true from h)]
      rfl
  · rw [cwd_remove, cwd_withCwd hd, cwd_withCwd (isDirAt_remove hd l)]
  · rw [chance_remove]
    exact (chance_remove fs l).symm

theorem append_withCwd (hd : fs.isDirAt d = true) (l : Location) (data : Bytes) :
    (fs.withCwd d).append l data = (fs.append l data).withCwd d := by
  unfold append
  rw [get?_withCwd]
  split
  · exact put_withCwd hd l _
  · rfl

theorem isDirAt_appended (hd : fs.isDirAt d = true) (l : Location) (data : Bytes) :
    (fs.append l data).isDirAt d = true := by
  unfold append
  split
  · exact isDirAt_put hd l _
  · exact hd

theorem setBits_withCwd (hd : fs.isDirAt d = true) (l : Location) (bits : Option Nat) :
    (fs.withCwd d).setBits l bits = (fs.setBits l bits).withCwd d := by
  unfold setBits
  rw [get?_withCwd]
  split
  · exact put_withCwd hd l _
  · rfl

section Making

variable (hp : p.isAbsolute = true) (hd : fs.isDirAt d = true)
include hp

theorem vacant_withCwd (fs : FileSystem) (d : Location) :
    (fs.withCwd d).vacant p = fs.vacant p := by
  unfold vacant
  rw [findHolder_withCwd hp]
  rfl

include hd

theorem makeDir_withCwd : (fs.withCwd d).makeDir p = (fs.makeDir p).map (·.withCwd d) := by
  unfold makeDir
  rw [vacant_withCwd hp]
  cases fs.vacant p with
  | error e => rfl
  | ok l => exact congrArg Except.ok (put_withCwd hd l _)

theorem createFile_withCwd (mode : Nat) : (fs.withCwd d).createFile p mode =
    (fs.createFile p mode).map fun r => (r.1, r.2.withCwd d) := by
  unfold createFile
  rw [vacant_withCwd hp]
  cases fs.vacant p with
  | error e => rfl
  | ok l =>
    simp only [bind, Except.bind, put_withCwd hd]
    split <;> rfl

end Making

/-- Making directories one after the other. -/
theorem climb_withCwd (hd : fs.isDirAt d = true) :
    ∀ {ps : List Path} (_ : ∀ p ∈ ps, p.isAbsolute = true) (todo : List Path),
      climb ps todo (fs.withCwd d) = ((climb ps todo fs).1, (climb ps todo fs).2.withCwd d)
  | [], _, todo => rfl
  | p :: ps, h, todo => by
    obtain ⟨hp, hps⟩ := List.forall_mem_cons.mp h
    unfold climb
    rw [makeDir_withCwd hp hd, isDir_withCwd hp]
    split
    · rfl
    cases fs.makeDir p with
    | ok fs' => rfl
    | error e =>
      cases e with
      | noEntry => exact climb_withCwd hd hps (p :: todo)
      | _ =>
        simp only [Except.map]
        split <;> rfl

theorem descend_withCwd (d : Location) : ∀ {ps : List Path} (_ : ∀ p ∈ ps, p.isAbsolute = true)
    {fs : FileSystem} (_ : fs.isDirAt d = true),
      descend ps (fs.withCwd d) = ((descend ps fs).1, (descend ps fs).2.withCwd d)
  | [], _, fs, _ => rfl
  | p :: ps, h, fs, hd => by
    obtain ⟨hp, hps⟩ := List.forall_mem_cons.mp h
    unfold descend
    rw [makeDir_withCwd hp hd, isDir_withCwd hp]
    cases hmake : fs.makeDir p with
    | ok fs' => exact descend_withCwd d hps ((grownBy_makeDir hmake).isDirAt hd)
    | error e =>
      simp only [Except.map]
      split
      · exact descend_withCwd d hps hd
      · rfl

/-- What is still to be made when directories are made from the innermost out. -/
theorem mem_climb : ∀ {ps todo todo' : List Path} {fs fs' : FileSystem},
    climb ps todo fs = (.ok todo', fs') → ∀ q ∈ todo', q ∈ ps ∨ q ∈ todo
  | [], todo, _, fs, _, h, q, hq => by
    cases h
    exact .inr hq
  | p :: ps, todo, todo', fs, fs', h, q, hq => by
    unfold climb at h
    split at h
    · cases h
      exact .inr hq
    split at h
    · cases h
      exact .inr hq
    · rcases mem_climb h q hq with hq | hq
      · exact .inl (List.mem_cons_of_mem p hq)
      · rcases List.mem_cons.mp hq with rfl | hq
        · exact .inl List.mem_cons_self
        · exact .inr hq
    · split at h
      · cases h
        exact .inr hq
      · cases h

theorem makeDirs_withCwd (hp : p.isAbsolute = true) (hd : fs.isDirAt d = true) :
    (fs.withCwd d).makeDirs p = ((fs.makeDirs p).1, (fs.makeDirs p).2.withCwd d) := by
  have hps : ∀ q ∈ p.ancestors, q.isAbsolute = true := fun q hq =>
    (Path.components_of_mem_ancestors hq).2.trans hp
  have hgrown := grownBy_climb p.ancestors [] fs
  unfold makeDirs
  rw [climb_withCwd hd hps]
  rcases hclimb : climb p.ancestors [] fs with ⟨e | todo, fs'⟩
  · rfl
  · rw [hclimb] at hgrown
    refine descend_withCwd d (fun q hq => ?_) (hgrown.isDirAt hd)
    rcases mem_climb hclimb q hq with hq | hq
    · exact hps q hq
    · cases hq

theorem createDrawn_withCwd {base : Path} (hb : base.isAbsolute = true)
    (hd : fs.isDirAt d = true) : ∀ n i : Nat, (fs.withCwd d).createDrawn base n i =
      (fs.createDrawn base n i).map fun r => (r.1, r.2.withCwd d)
  | 0, _ => rfl
  | n + 1, i => by
    have hp := Path.isAbsolute_join hb ⟨temporaryName (fs.chance.draw i)⟩
    unfold createDrawn
    rw [show (fs.withCwd d).chance = fs.chance from rfl]
    simp only [createFile_withCwd hp hd]
    cases fs.createFile (base.join ⟨temporaryName (fs.chance.draw i)⟩) temporaryMode with
    | ok r => rfl
    | error e =>
      cases e with
      | alreadyExists => exact createDrawn_withCwd hb hd n (i + 1)
      | _ => rfl

theorem createTemporary_withCwd (hp : p.isAbsolute = true) (hd : fs.isDirAt d = true) :
    (fs.withCwd d).createTemporary p =
      (fs.createTemporary p).map fun r => (r.1, r.2.withCwd d) := by
  have hbase (fs : FileSystem) : fs.temporaryBase p = .ok p := if_pos hp
  unfold createTemporary
  rw [hbase, hbase]
  exact createDrawn_withCwd hp hd temporaryTries 0

theorem map_raise {α : Type} (f : α → α) (fault : Option IoFault)
    {next next' : Unit → Except IoFault α} (h : next' () = (next ()).map f) :
    raise fault >>= next' = (raise fault >>= next).map f := by
  cases fault with
  | none => exact h
  | some e => rfl

theorem fill_withCwd (hp : p.isAbsolute = true) (hd : fs.isDirAt d = true) (temporary : Temporary)
    (data : Bytes) : (fs.withCwd d).fill temporary p data =
      (fs.fill temporary p data).map (·.withCwd d) := by
  unfold fill
  simp only [append_withCwd hd, mode?_withCwd hp, setBits_withCwd (isDirAt_appended hd _ _)]
  exact map_raise _ _ (map_raise _ _ (map_raise _ _ rfl))

theorem isDirAt_filled {fs' : FileSystem} {temporary : Temporary} {data : Bytes}
    (hd : fs.isDirAt d = true) (h : fs.fill temporary p data = .ok fs') :
    fs'.isDirAt d = true := by
  obtain rfl := fill_eq_ok h
  have hd' := isDirAt_appended hd temporary.place data
  unfold setBits
  split
  · exact isDirAt_put hd' _ _
  · exact hd'

theorem rename_withCwd (hp : p.isAbsolute = true) (hd : fs.isDirAt d = true) (source : Location) :
    (fs.withCwd d).rename source p = (fs.rename source p).map (·.withCwd d) := by
  unfold rename
  rw [findHolder_withCwd hp]
  cases fs.findHolder p with
  | error e => cases e <;> rfl
  | ok r =>
    obtain ⟨l, _ | (_ | _ | name)⟩ := r
    · rfl
    · rfl
    · rfl
    · simp only [isDirAt_withCwd, get?_withCwd, remove_withCwd hd,
        put_withCwd (isDirAt_remove hd _)]
      split
      · rfl
      split
      · rfl
      split
      · rfl
      split <;> rfl

/-! ## 4. Replacing a file -/

theorem walk_of_here (n : Nat) : ∀ {steps : List Step}, (∀ step ∈ steps, step = .here) →
    fs.walk true n [] steps = .ok (.found [])
  | [], _ => walk_nil
  | step :: steps, h => by
    obtain ⟨rfl, hsteps⟩ := List.forall_mem_cons.mp h
    rw [walk_here (isDirAt_top fs)]
    exact walk_of_here n hsteps

/-- What leads to the top cannot be read, and it is not missing either. -/
theorem exists_read_error_of_top
    (hw : fs.walk true linkLimit (startOf fs.cwd p) p.steps = .ok (.found []))
    (hne : p.bytes ≠ []) : ∃ e, fs.read p = .error e ∧ e ≠ .noEntry := by
  cases hc : checkPath p with
  | error e =>
    refine ⟨e, read_of_checkPath_error hc, ?_⟩
    rintro rfl
    exact hne (bytes_of_checkPath_noEntry hc)
  | ok u =>
    obtain ⟨mode, hmode⟩ := exists_dir (isDirAt_top fs)
    have hfind : fs.find p = .ok [] := find_eq_ok_iff.mpr ⟨hc, hw⟩
    refine ⟨.isDirectory, ?_, by simp⟩
    unfold read
    rw [hfind]
    simp only [bind, Except.bind, hmode]

/-- The target of a replacement has a parent if the file can be read or is not there. -/
theorem parent?_replaceTarget_ne_none (hp : p.isAbsolute = true)
    (hread : ∀ e, fs.read p = .error e → e = .noEntry) :
    (fs.replaceTarget p).parent? ≠ none := by
  have hne : p.bytes ≠ [] := by
    intro hnil
    simp [Path.isAbsolute, hnil] at hp
  have htop (hw : fs.walk true linkLimit (startOf fs.cwd p) p.steps = .ok (.found [])) : False := by
    obtain ⟨e, he, hentry⟩ := exists_read_error_of_top hw hne
    exact hentry (hread e he)
  intro hparent
  rcases replaceTarget_cases fs p with ⟨l, hc, hw, -, ht⟩ | ht
  · rw [ht] at hparent
    obtain ⟨e, he, -⟩ := exists_entry_of_walk hc hw
    cases l with
    | nil => exact htop hw
    | cons name l =>
      rw [parent?_pathTo (isName_of_mem (by rw [he]; rfl))] at hparent
      cases hparent
  · rw [ht] at hparent
    refine htop ?_
    rw [startOf_of_isAbsolute hp]
    refine walk_of_here linkLimit fun step hstep => ?_
    rcases List.mem_append.mp hstep with hstep | hstep
    · exact Path.components_of_parent?_none hp hparent step hstep
    · split at hstep
      · exact List.mem_singleton.mp hstep
      · cases hstep

theorem isAbsolute_replaceTarget (hp : p.isAbsolute = true) :
    (fs.replaceTarget p).isAbsolute = true := by
  rcases replaceTarget_cases fs p with ⟨l, -, -, -, ht⟩ | ht
  · rw [ht]
    rfl
  · rw [ht]
    exact hp

theorem isAbsolute_holderPath (hp : p.isAbsolute = true) (hparent : p.parent? ≠ none) :
    (holderPath p).isAbsolute = true := by
  cases hq : p.parent? with
  | none => exact absurd hq hparent
  | some q =>
    have hqabs : q.isAbsolute = true := (Path.components_parent hq).2.trans hp
    have hne : q.bytes.isEmpty = false := by
      cases hbytes : q.bytes with
      | nil => simp [Path.isAbsolute, hbytes] at hqabs
      | cons b rest => rfl
    unfold holderPath
    rw [hq]
    simpa [hne] using hqabs

/-- **A file that can be read, or is not there, is replaced in the same way from every working
    directory**, if its path is absolute. -/
theorem replace_withCwd (hp : p.isAbsolute = true)
    (hread : ∀ e, fs.read p = .error e → e = .noEntry) (hd : fs.isDirAt d = true) (data : Bytes) :
    (fs.withCwd d).replace p data = ((fs.replace p data).1, (fs.replace p data).2.withCwd d) := by
  have htarget : (fs.replaceTarget p).isAbsolute = true := isAbsolute_replaceTarget hp
  have hholder : (holderPath (fs.replaceTarget p)).isAbsolute = true :=
    isAbsolute_holderPath htarget (parent?_replaceTarget_ne_none hp hread)
  have hgrown := grownBy_makeDirs fs (holderPath (fs.replaceTarget p))
  unfold replace
  rw [replaceTarget_withCwd hp]
  simp only [makeDirs_withCwd hholder hd]
  rcases hdirs : fs.makeDirs (holderPath (fs.replaceTarget p)) with ⟨e | u, fs₁⟩
  · rfl
  rw [hdirs] at hgrown
  have hd₁ := hgrown.isDirAt hd
  simp only [createTemporary_withCwd hholder hd₁]
  cases htemp : fs₁.createTemporary (holderPath (fs.replaceTarget p)) with
  | error e => rfl
  | ok r =>
    obtain ⟨temporary, fs₂⟩ := r
    obtain ⟨-, -, rfl⟩ := createTemporary_eq_ok htemp
    have hd₂ := isDirAt_put hd₁ temporary.place (.file temporaryMode [])
    simp only [Except.map, fill_withCwd htarget hd₂, remove_withCwd hd₂]
    cases hfill : (fs₁.put temporary.place (.file temporaryMode [])).fill temporary
        (fs.replaceTarget p) data with
    | error e => rfl
    | ok fs₃ =>
      have hd₃ := isDirAt_filled hd₂ hfill
      simp only [bind, Except.bind, rename_withCwd htarget hd₃]
      cases fs₃.rename temporary.place (fs.replaceTarget p) <;> rfl

end FileSystem

end DeviceKeys
