import DeviceKeys.Proofs.FileSystem.Replace
import DeviceKeys.Proofs.FileSystem.Resolving

/-! # What no call tells about the contents of files

Two trees are alike if they differ in nothing but the contents of files (`Alike`). Walking a path,
asking for permission bits, making directories, creating and moving files have the same result in
both, and leave trees that are alike again. So has the replacement of a file, whatever is written
(`Alike.replace`).

The names of temporary files are drawn alike, and the medium has the same faults.
-/

namespace DeviceKeys

open DeviceKeys.Path (Step Name)

/-- An entry without the contents of a file. -/
def Entry.outline : Entry → Entry
  | .file mode _ => .file mode []
  | e => e

namespace FileSystem

variable {fs fs' : FileSystem} {l t : Location} {p : Path} {e e' : Entry} {data data' : Bytes}

/-! ## 1. Entries -/

theorem isDir_outline (e : Entry) : e.outline.isDir = e.isDir := by
  cases e <;> rfl

theorem any_isDir_outline (o : Option Entry) :
    (o.map Entry.outline).any Entry.isDir = o.any Entry.isDir := by
  cases o with
  | none => rfl
  | some e => exact isDir_outline e

theorem bind_modeOf_outline (o : Option Entry) :
    (o.map Entry.outline).bind modeOf = o.bind modeOf := by
  rcases o with _ | (_ | _ | _) <;> rfl

theorem outline_eq_link_iff {target : Path} : e.outline = .link target ↔ e = .link target := by
  cases e <;> simp [Entry.outline]

theorem map_outline_eq_link_iff {o : Option Entry} {target : Path} :
    o.map Entry.outline = some (.link target) ↔ o = some (.link target) := by
  cases o with
  | none => simp
  | some e => simp [outline_eq_link_iff]

theorem outline_eq_file_iff {mode : Nat} :
    e.outline = .file mode [] ↔ ∃ data, e = .file mode data := by
  cases e <;> simp [Entry.outline]

/-! ## 2. Trees -/

/-- The trees differ in nothing but the contents of files, seen from the same directory with the
    same draws and faults. -/
structure Alike (fs fs' : FileSystem) : Prop where
  cwd : fs'.cwd = fs.cwd
  chance : fs'.chance = fs.chance
  outline_eq : ∀ l, (fs'.get? l).map Entry.outline = (fs.get? l).map Entry.outline

namespace Alike

theorem refl (fs : FileSystem) : Alike fs fs := ⟨rfl, rfl, fun _ => rfl⟩

variable (h : Alike fs fs')
include h

theorem isDirAt_eq (l : Location) : fs'.isDirAt l = fs.isDirAt l := by
  unfold isDirAt
  rw [← any_isDir_outline, h.outline_eq, any_isDir_outline]

theorem isSome_eq (l : Location) : (fs'.get? l).isSome = (fs.get? l).isSome := by
  simpa using congrArg Option.isSome (h.outline_eq l)

theorem noDirectory_eq (l : Location) : fs'.noDirectory l = fs.noDirectory l := by
  unfold noDirectory
  rw [h.isSome_eq]

theorem none_iff : fs'.get? l = none ↔ fs.get? l = none := by
  simpa using congrArg (· = none) (h.outline_eq l)

theorem exists_entry (he : fs.get? l = some e) :
    ∃ e', fs'.get? l = some e' ∧ e'.outline = e.outline := by
  have hl := h.outline_eq l
  rw [he] at hl
  exact Option.map_eq_some_iff.mp hl

theorem link_iff (l : Location) (target : Path) :
    fs'.get? l = some (.link target) ↔ fs.get? l = some (.link target) := by
  rw [← map_outline_eq_link_iff, h.outline_eq, map_outline_eq_link_iff]

theorem not_link (he : fs.get? l = some e) (hlink : ∀ target, e ≠ .link target) :
    ∃ e', fs'.get? l = some e' ∧ ∀ target, e' ≠ .link target := by
  obtain ⟨e', he', hout⟩ := h.exists_entry he
  refine ⟨e', he', fun target htarget => hlink target ?_⟩
  exact outline_eq_link_iff.mp (hout.symm.trans (outline_eq_link_iff.mpr htarget))

/-! ## 3. Paths -/

theorem walk_eq (n : Nat) (l : Location) (steps : List Step) :
    fs'.walk true n l steps = fs.walk true n l steps := by
  induction n, l, steps using walk_induction fs with
  | nil n l => rw [walk_nil, walk_nil]
  | notDirectory hl =>
    rw [walk_notDirectory hl, walk_notDirectory ((h.isDirAt_eq _).trans hl), h.noDirectory_eq]
  | here hl ih => rw [walk_here hl, walk_here ((h.isDirAt_eq _).trans hl), ih]
  | up hl ih => rw [walk_up hl, walk_up ((h.isDirAt_eq _).trans hl), ih]
  | tooLong hl hn => rw [walk_tooLong hl hn, walk_tooLong ((h.isDirAt_eq _).trans hl) hn]
  | absent hl hn he =>
    rw [walk_absent hl hn he, walk_absent ((h.isDirAt_eq _).trans hl) hn (h.none_iff.mpr he)]
  | entry hl hn he hlink ih =>
    obtain ⟨e', he', hlink'⟩ := h.not_link he hlink
    rw [walk_entry hl hn he hlink, walk_entry ((h.isDirAt_eq _).trans hl) hn he' hlink', ih]
  | lastLink hl hn he =>
    rw [walk_link hl hn he, walk_link ((h.isDirAt_eq _).trans hl) hn ((h.link_iff _ _).mpr he)]
    rfl
  | link hl hn he ih =>
    rw [walk_link hl hn he, walk_link ((h.isDirAt_eq _).trans hl) hn ((h.link_iff _ _).mpr he)]
    exact ih

theorem find_eq (p : Path) : fs'.find p = fs.find p := by
  unfold find locate
  simp only [h.walk_eq, h.cwd]

theorem findHolder_eq (p : Path) : fs'.findHolder p = fs.findHolder p := by
  unfold findHolder
  simp only [h.walk_eq, h.cwd, h.isDirAt_eq, h.noDirectory_eq]

theorem resolvable_iff (p : Path) : fs'.Resolvable p ↔ fs.Resolvable p := by
  unfold Resolvable asked
  rw [askedOn_congr h.isSome_eq h.link_iff, h.cwd]

theorem replaceTarget_eq (p : Path) : fs'.replaceTarget p = fs.replaceTarget p := by
  unfold replaceTarget canonicalize?
  simp only [h.walk_eq, h.cwd, h.resolvable_iff]

theorem outline_stat? (p : Path) :
    (fs'.stat? p).map Entry.outline = (fs.stat? p).map Entry.outline := by
  unfold stat?
  rw [h.find_eq]
  split
  · exact h.outline_eq _
  · rfl

theorem mode?_eq (p : Path) : fs'.mode? p = fs.mode? p := by
  unfold mode?
  rw [← bind_modeOf_outline, h.outline_stat?, bind_modeOf_outline]

theorem isDir_eq (p : Path) : fs'.isDir p = fs.isDir p := by
  unfold isDir
  rw [← any_isDir_outline, h.outline_stat?, any_isDir_outline]

/-! ## 4. Changes -/

theorem fits_iff (he : e'.outline = e.outline) : fs'.Fits l e' ↔ fs.Fits l e := by
  unfold Fits
  rw [h.isDirAt_eq, h.isDirAt_eq, ← isDir_outline e', he, isDir_outline]

theorem put (he : e'.outline = e.outline) (l : Location) : Alike (fs.put l e) (fs'.put l e') := by
  refine ⟨by rw [cwd_put, cwd_put, h.cwd], by rw [chance_put, chance_put, h.chance], fun x => ?_⟩
  by_cases hfits : fs.Fits l e
  · rw [get?_put hfits, get?_put ((h.fits_iff he).mpr hfits)]
    split
    · exact congrArg some he
    · exact h.outline_eq x
  · have hfits' := mt (h.fits_iff he).mp hfits
    unfold FileSystem.put
    rw [dif_neg hfits, dif_neg hfits']
    exact h.outline_eq x

theorem remove (l : Location) : Alike (fs.remove l) (fs'.remove l) := by
  refine ⟨by rw [cwd_remove, cwd_remove, h.cwd], by rw [chance_remove, chance_remove, h.chance],
    fun x => ?_⟩
  by_cases hl : fs.isDirAt l = true
  · have hl' := (h.isDirAt_eq l).trans hl
    unfold FileSystem.remove
    rw [dif_pos hl, dif_pos hl']
    exact h.outline_eq x
  · have hl : fs.isDirAt l = false := by simpa using hl
    rw [get?_remove hl, get?_remove ((h.isDirAt_eq l).trans hl)]
    split
    · rfl
    · exact h.outline_eq x

/-- At a location both trees have a file, or both have the same and no file. -/
theorem at_location (l : Location) :
    (∃ mode old old', fs.get? l = some (.file mode old) ∧ fs'.get? l = some (.file mode old')) ∨
      fs'.get? l = fs.get? l ∧ ∀ mode old, fs.get? l ≠ some (.file mode old) := by
  cases he : fs.get? l with
  | none => exact .inr ⟨h.none_iff.mpr he, by simp⟩
  | some e =>
    obtain ⟨e', he', hout⟩ := h.exists_entry he
    cases e with
    | file mode old =>
      obtain ⟨old', rfl⟩ := outline_eq_file_iff.mp hout
      exact .inl ⟨mode, old, old', rfl, he'⟩
    | link target =>
      rw [he', outline_eq_link_iff.mp hout]
      exact .inr ⟨rfl, by simp⟩
    | dir mode =>
      cases e' with
      | dir mode' =>
        cases hout
        exact .inr ⟨he', by simp⟩
      | _ => cases hout

theorem append (l : Location) (data data' : Bytes) :
    Alike (fs.append l data) (fs'.append l data') := by
  unfold FileSystem.append
  rcases h.at_location l with ⟨mode, old, old', he, he'⟩ | ⟨heq, hne⟩
  · rw [he, he']
    have hout : (Entry.file mode (old' ++ data')).outline =
        (Entry.file mode (old ++ data)).outline := rfl
    exact h.put hout l
  · rw [heq]
    split
    · rename_i mode old he
      exact absurd he (hne mode old)
    · exact h

theorem setBits (l : Location) (bits : Option Nat) :
    Alike (fs.setBits l bits) (fs'.setBits l bits) := by
  unfold FileSystem.setBits
  rcases h.at_location l with ⟨mode, old, old', he, he'⟩ | ⟨heq, hne⟩
  · rw [he, he']
    cases bits with
    | none => exact h
    | some bits =>
      have hout : (Entry.file bits old').outline = (Entry.file bits old).outline := rfl
      exact h.put hout l
  · rw [heq]
    split
    · rename_i mode old he
      exact absurd he (hne _ _)
    · exact h

end Alike

/-! ## 5. Results -/

/-- Both calls fail in the same way, or both succeed with results that belong together. -/
inductive SameResult {α : Type} (R : α → α → Prop) : Except IoFault α → Except IoFault α → Prop
  | error (e : IoFault) : SameResult R (.error e) (.error e)
  | ok {a b : α} (h : R a b) : SameResult R (.ok a) (.ok b)

/-- The same value, and trees that are alike. -/
def AlikeAfter {α : Type} (r r' : α × FileSystem) : Prop := r'.1 = r.1 ∧ Alike r.2 r'.2

theorem AlikeAfter.exists_eq {α : Type} {r r' : α × FileSystem} (h : AlikeAfter r r') :
    ∃ a fs fs', r = (a, fs) ∧ r' = (a, fs') ∧ Alike fs fs' :=
  ⟨r.1, r.2, r'.2, rfl, Prod.ext h.1 rfl, h.2⟩

namespace Alike

variable (h : Alike fs fs')
include h

theorem vacant_eq (p : Path) : fs'.vacant p = fs.vacant p := by
  unfold vacant
  simp only [h.findHolder_eq, h.isSome_eq]

theorem makeDir (p : Path) : SameResult Alike (fs.makeDir p) (fs'.makeDir p) := by
  unfold FileSystem.makeDir
  rw [h.vacant_eq]
  cases fs.vacant p with
  | error e => exact .error e
  | ok l => exact .ok (h.put rfl l)

omit h in
theorem climb : ∀ (ps todo : List Path) {fs fs' : FileSystem}, Alike fs fs' →
    AlikeAfter (climb ps todo fs) (climb ps todo fs')
  | [], todo, fs, fs', h => ⟨rfl, h⟩
  | p :: ps, todo, fs, fs', h => by
    unfold FileSystem.climb
    split
    · exact ⟨rfl, h⟩
    have hmake := h.makeDir p
    generalize fs.makeDir p = r at hmake ⊢
    generalize fs'.makeDir p = r' at hmake ⊢
    cases hmake with
    | ok hmade => exact ⟨rfl, hmade⟩
    | error e =>
      rw [h.isDir_eq]
      cases e with
      | noEntry => exact climb ps (p :: todo) h
      | _ => simp only; split <;> exact ⟨rfl, h⟩

omit h in
theorem descend : ∀ (ps : List Path) {fs fs' : FileSystem}, Alike fs fs' →
    AlikeAfter (descend ps fs) (descend ps fs')
  | [], fs, fs', h => ⟨rfl, h⟩
  | p :: ps, fs, fs', h => by
    unfold FileSystem.descend
    have hmake := h.makeDir p
    generalize fs.makeDir p = r at hmake ⊢
    generalize fs'.makeDir p = r' at hmake ⊢
    cases hmake with
    | ok hmade => exact descend ps hmade
    | error e =>
      simp only [h.isDir_eq]
      split
      · exact descend ps h
      · exact ⟨rfl, h⟩

theorem makeDirs (p : Path) : AlikeAfter (fs.makeDirs p) (fs'.makeDirs p) := by
  obtain ⟨r, fs₁, fs₁', hclimb, hclimb', halike⟩ := (h.climb p.ancestors []).exists_eq
  unfold FileSystem.makeDirs
  rw [hclimb, hclimb']
  cases r with
  | error e => exact ⟨rfl, halike⟩
  | ok todo => exact halike.descend todo

theorem createFile (p : Path) (mode : Nat) :
    SameResult AlikeAfter (fs.createFile p mode) (fs'.createFile p mode) := by
  unfold FileSystem.createFile
  rw [h.vacant_eq]
  cases fs.vacant p with
  | error e => exact .error e
  | ok l =>
    simp only [bind, Except.bind]
    split
    · exact .error _
    · exact .ok ⟨rfl, h.put rfl l⟩

theorem createDrawn (base : Path) : ∀ n i : Nat,
    SameResult AlikeAfter (fs.createDrawn base n i) (fs'.createDrawn base n i)
  | 0, _ => .error _
  | n + 1, i => by
    unfold FileSystem.createDrawn
    simp only [h.chance]
    have hcreate := h.createFile (base.join ⟨temporaryName (fs.chance.draw i)⟩) temporaryMode
    generalize fs.createFile (base.join ⟨temporaryName (fs.chance.draw i)⟩) temporaryMode = r
      at hcreate ⊢
    generalize fs'.createFile (base.join ⟨temporaryName (fs.chance.draw i)⟩) temporaryMode = r'
      at hcreate ⊢
    cases hcreate with
    | ok hcreated =>
      obtain ⟨l, fs₁, fs₁', rfl, rfl, halike⟩ := hcreated.exists_eq
      exact .ok ⟨rfl, halike⟩
    | error e =>
      cases e with
      | alreadyExists => exact createDrawn base n (i + 1)
      | _ => exact .error _

theorem temporaryBase_eq (p : Path) : fs'.temporaryBase p = fs.temporaryBase p := by
  unfold temporaryBase currentDir
  rw [h.cwd, h.isDirAt_eq]

theorem createTemporary (p : Path) :
    SameResult AlikeAfter (fs.createTemporary p) (fs'.createTemporary p) := by
  unfold FileSystem.createTemporary
  rw [h.temporaryBase_eq]
  cases fs.temporaryBase p with
  | error e => exact .error e
  | ok base => exact h.createDrawn base temporaryTries 0

omit h in
theorem raise {fault : Option IoFault} {next next' : Unit → Except IoFault FileSystem}
    (hnext : SameResult Alike (next ()) (next' ())) :
    SameResult Alike (FileSystem.raise fault >>= next) (FileSystem.raise fault >>= next') := by
  cases fault with
  | none => exact hnext
  | some e => exact .error e

/-- What is written makes no difference to whether it is, if it is something in both cases. -/
theorem fill (temporary : Temporary) (target : Path) {data data' : Bytes}
    (hdata : data' = [] ↔ data = []) :
    SameResult Alike (fs.fill temporary target data) (fs'.fill temporary target data') := by
  have h₁ := h.append temporary.place data data'
  unfold FileSystem.fill
  simp only [hdata, h.chance, h₁.mode?_eq, h₁.chance]
  refine Alike.raise (Alike.raise ?_)
  have h₂ := h₁.setBits temporary.place ((fs.append temporary.place data).mode? target)
  simp only [h₂.chance]
  exact Alike.raise (.ok h₂)

theorem rename (t : Location) (p : Path) : SameResult Alike (fs.rename t p) (fs'.rename t p) := by
  unfold FileSystem.rename
  rw [h.findHolder_eq]
  split
  · exact .error _
  · exact .error _
  · rename_i l name hh
    rw [h.isDirAt_eq]
    split
    · exact .error _
    split
    · exact .error _
    split
    · exact .error _
    cases he : fs.get? t with
    | none =>
      rw [h.none_iff.mpr he]
      exact .error _
    | some e =>
      obtain ⟨e', he', hout⟩ := h.exists_entry he
      rw [he']
      exact .ok ((h.remove t).put hout _)
  · exact .error _

/-- **What is written makes no difference** to the result of a replacement, nor to the tree that it
    leaves but for the contents of files, if it is something in both cases. -/
theorem replace (p : Path) {data data' : Bytes} (hdata : data' = [] ↔ data = []) :
    AlikeAfter (fs.replace p data) (fs'.replace p data') := by
  unfold FileSystem.replace
  simp only [h.replaceTarget_eq]
  obtain ⟨r, fs₁, fs₁', hdirs, hdirs', h₁⟩ :=
    (h.makeDirs (holderPath (fs.replaceTarget p))).exists_eq
  rw [hdirs, hdirs']
  cases r with
  | error e => exact ⟨rfl, h₁⟩
  | ok u =>
    simp only
    have htemp := h₁.createTemporary (holderPath (fs.replaceTarget p))
    generalize fs₁.createTemporary (holderPath (fs.replaceTarget p)) = r at htemp ⊢
    generalize fs₁'.createTemporary (holderPath (fs.replaceTarget p)) = r' at htemp ⊢
    cases htemp with
    | error e => exact ⟨rfl, h₁⟩
    | ok hcreated =>
      obtain ⟨temporary, fs₂, fs₂', rfl, rfl, h₂⟩ := hcreated.exists_eq
      simp only
      have hfilled := h₂.fill temporary (fs.replaceTarget p) hdata
      generalize fs₂.fill temporary (fs.replaceTarget p) data = r at hfilled ⊢
      generalize fs₂'.fill temporary (fs.replaceTarget p) data' = r' at hfilled ⊢
      cases hfilled with
      | error e => exact ⟨rfl, h₂.remove temporary.place⟩
      | @ok fs₃ fs₃' h₃ =>
        simp only [bind, Except.bind]
        have hmoved := h₃.rename temporary.place (fs.replaceTarget p)
        generalize fs₃.rename temporary.place (fs.replaceTarget p) = r at hmoved ⊢
        generalize fs₃'.rename temporary.place (fs.replaceTarget p) = r' at hmoved ⊢
        cases hmoved with
        | error e => exact ⟨rfl, h₂.remove temporary.place⟩
        | ok h₄ => exact ⟨rfl, h₄⟩

end Alike

end FileSystem

end DeviceKeys
