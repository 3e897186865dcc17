import Mathlib.Logic.Function.Basic
import DeviceKeys.Proofs.FileSystem.Varying
import DeviceKeys.Proofs.FileSystem.Writer

/-! # Several writers of one path

Any number of writers give one path new contents, their calls in any order, and any of them may stop
for good anywhere.

* `Orderly` is what holds in between: but for the place of the path and the temporary files, each of
  one writer, the tree is as it was. The place is as it was until a file is moved there, and then it
  holds the whole contents of one writer that has moved its file.
* `Keeps` is what one call leaves alone, from which `Orderly.of_keeps` gets what holds after it;
  `Orderly.keeps_of_call` goes through the calls, and `orderly_of_runs` through all of a run.
* **`read_during_runs`**: what the path reads as, at any moment.
-/

namespace DeviceKeys.FileSystem

open DeviceKeys.Path (Name)

variable {ι : Type} {p : Path} {contents : ι → Bytes}

/-! ## 1. Calls in any order -/

/-- The tree, and where each of the writers stands. -/
structure Scene (ι : Type) where
  fs : FileSystem
  stage : ι → Stage

/-- No writer has made a call. -/
def Scene.beginning (ι : Type) (fs : FileSystem) : Scene ι := ⟨fs, fun _ => .start⟩

/-- One of the writers makes a call. -/
inductive Advances (p : Path) (contents : ι → Bytes) : Scene ι → Scene ι → Prop
  | call {a b : Scene ι} (i : ι) (h : Call p (contents i) a.fs (a.stage i) b.fs (b.stage i))
      (hothers : ∀ j, j ≠ i → b.stage j = a.stage j) : Advances p contents a b

/-- Any number of calls of any of the writers. -/
def Runs (p : Path) (contents : ι → Bytes) : Scene ι → Scene ι → Prop :=
  Relation.ReflTransGen (Advances p contents)

/-- The calls of one writer, with none of others in between. -/
theorem runs_of_calls [DecidableEq ι] {a : Scene ι} {i : ι} {fs' : FileSystem} {stage' : Stage}
    (h : Calls p (contents i) (a.fs, a.stage i) (fs', stage')) :
    Runs p contents a ⟨fs', Function.update a.stage i stage'⟩ := by
  generalize hx : (fs', stage') = x at h
  induction h generalizing fs' stage' with
  | refl =>
    cases hx
    rw [Function.update_eq_self]
    exact .refl
  | tail _ hcall ih =>
    subst hx
    refine (ih rfl).tail (.call i ?_ fun j hj => ?_)
    · simpa using hcall
    · simp [hj]

/-! ## 2. What holds in between -/

/-- The temporary file of a writer: nothing stood there at first, and it holds the part of the
    contents that is written, if it is to be moved. -/
structure Held (fs : FileSystem) (place : Location) (data : Bytes) (now : FileSystem)
    (stage : Stage) (t : Location) : Prop where
  new : fs.get? t = none
  ne_place : t ≠ place
  written : ∃ mode part, now.get? t = some (.file mode part) ∧
    ∀ rest, stage.owed? = some rest → part ++ rest = data

/-- A file can stand in the place and be read by the path. -/
def Receives (p : Path) (place : Location) : Prop :=
  p.endsInSlash = false ∧ ∀ name ∈ place.head?, name.length ≤ nameLimit

/-- What holds between the calls of the writers. -/
structure Orderly (fs : FileSystem) (p : Path) (place : Location) (contents : ι → Bytes)
    (now : Scene ι) : Prop where
  cwd : now.fs.cwd = fs.cwd
  kept : ∀ x, x ≠ place → (∀ i, (now.stage i).temporary? ≠ some x) → now.fs.get? x = fs.get? x
  held : ∀ i t, (now.stage i).temporary? = some t →
    Held fs place (contents i) now.fs (now.stage i) t
  apart : ∀ i j t, (now.stage i).temporary? = some t → (now.stage j).temporary? = some t → i = j
  aims : ∀ i target, (now.stage i).target? = some target → Aims fs p place now.fs target
  before : (∀ i, now.stage i ≠ .done) → now.fs.get? place = fs.get? place
  after : ∀ i, now.stage i = .done → Receives p place ∧
    ∃ j mode, now.stage j = .done ∧ now.fs.get? place = some (.file mode (contents j))

namespace Orderly

variable {fs : FileSystem} {place : Location} {a b : Scene ι}

theorem beginning (fs : FileSystem) (p : Path) (place : Location) (contents : ι → Bytes) :
    Orderly fs p place contents (Scene.beginning ι fs) where
  cwd := rfl
  kept := fun _ _ _ => rfl
  held := fun _ _ h => by cases h
  apart := fun _ _ _ h => by cases h
  aims := fun _ _ h => by cases h
  before := fun _ => rfl
  after := fun _ h => by cases h

/-- The place is as it was, or a file has been moved there. -/
theorem place_cases (h : Orderly fs p place contents a) : a.fs.get? place = fs.get? place ∨
    ∃ mode data, a.fs.get? place = some (.file mode data) := by
  by_cases hd : ∃ i, a.stage i = .done
  · obtain ⟨i, hi⟩ := hd
    obtain ⟨-, j, mode, -, hfile⟩ := h.after i hi
    exact .inr ⟨mode, contents j, hfile⟩
  · exact .inl (h.before fun i hi => hd ⟨i, hi⟩)

theorem variesAt (h : Orderly fs p place contents a) (hplace : fs.isDirAt place = false) :
    VariesAt place fs a.fs where
  cwd := h.cwd
  kept := by
    intro x e hx he
    rw [h.kept x hx fun i hi => ?_, he]
    rw [(h.held i x hi).new] at he
    cases he
  not_isDirAt_new := by
    intro x hx
    by_cases hxp : x = place
    · subst hxp
      rcases h.place_cases with hp | ⟨mode, data, hfile⟩
      · exact not_isDirAt_of_none (hp.trans hx)
      · exact not_isDirAt_of_file hfile
    by_cases ht : ∃ i, (a.stage i).temporary? = some x
    · obtain ⟨i, hi⟩ := ht
      obtain ⟨mode, part, hfile, -⟩ := (h.held i x hi).written
      exact not_isDirAt_of_file hfile
    · exact not_isDirAt_of_none ((h.kept x hxp (not_exists.mp ht)).trans hx)
  not_isDirAt := hplace
  not_isDirAt' := by
    rcases h.place_cases with hp | ⟨mode, data, hfile⟩
    · unfold isDirAt
      rw [hp]
      exact hplace
    · exact not_isDirAt_of_file hfile

/-! ## 3. What a call keeps -/

/-- What one writer does, told by what it leaves: it touches nothing but the place and its own
    temporary file, and the place only to move that file there. -/
structure Keeps (fs : FileSystem) (p : Path) (place : Location) (contents : ι → Bytes)
    (a b : Scene ι) (i : ι) : Prop where
  others : ∀ j, j ≠ i → b.stage j = a.stage j
  cwd : b.fs.cwd = a.fs.cwd
  same : ∀ x, x ≠ place → (a.stage i).temporary? ≠ some x → (b.stage i).temporary? ≠ some x →
    b.fs.get? x = a.fs.get? x
  gone : ∀ t, (a.stage i).temporary? = some t → (b.stage i).temporary? ≠ some t →
    b.fs.get? t = none
  held : ∀ t, (b.stage i).temporary? = some t →
    Held fs place (contents i) b.fs (b.stage i) t ∧
      ∀ j, j ≠ i → (a.stage j).temporary? ≠ some t
  aims : ∀ target, (b.stage i).target? = some target → Aims fs p place b.fs target
  place_eq : (a.stage i ≠ .done ∧ b.stage i ≠ .done ∧ b.fs.get? place = a.fs.get? place) ∨
    (b.stage i = .done ∧ Receives p place ∧
      ∃ mode, b.fs.get? place = some (.file mode (contents i)))

theorem of_keeps {i : ι} (h : Orderly fs p place contents a)
    (k : Keeps fs p place contents a b i) : Orderly fs p place contents b where
  cwd := k.cwd.trans h.cwd
  kept := by
    intro x hx ht
    by_cases hxa : (a.stage i).temporary? = some x
    · rw [k.gone x hxa (ht i), (h.held i x hxa).new]
    · rw [k.same x hx hxa (ht i)]
      refine h.kept x hx fun j hj => ?_
      by_cases hji : j = i
      · exact hxa (hji ▸ hj)
      · exact ht j (k.others j hji ▸ hj)
  held := by
    intro j t ht
    by_cases hji : j = i
    · subst hji
      exact (k.held t ht).1
    · rw [k.others j hji] at ht ⊢
      obtain ⟨hnew, hne, mode, part, hfile, howed⟩ := h.held j t ht
      have hai : (a.stage i).temporary? ≠ some t := fun hi => hji (h.apart j i t ht hi)
      have hbi : (b.stage i).temporary? ≠ some t := fun hi => (k.held t hi).2 j hji ht
      exact ⟨hnew, hne, mode, part, (k.same t hne hai hbi).trans hfile, howed⟩
  apart := by
    intro j j' t hj hj'
    by_cases hji : j = i
    · by_cases hji' : j' = i
      · exact hji.trans hji'.symm
      · rw [k.others j' hji'] at hj'
        exact absurd hj' ((k.held t (hji ▸ hj)).2 j' hji')
    · rw [k.others j hji] at hj
      by_cases hji' : j' = i
      · exact absurd hj ((k.held t (hji' ▸ hj')).2 j hji)
      · rw [k.others j' hji'] at hj'
        exact h.apart j j' t hj hj'
  aims := by
    intro j target ht
    by_cases hji : j = i
    · exact k.aims target (hji ▸ ht)
    · rw [k.others j hji] at ht
      refine (h.aims j target ht).mono fun hs => ?_
      rcases k.place_eq with ⟨-, -, hp⟩ | ⟨-, -, mode, hfile⟩
      · rw [hp]
        exact hs
      · simp [hfile]
  before := by
    intro hb
    rcases k.place_eq with ⟨hai, -, hp⟩ | ⟨hdone, -⟩
    · rw [hp]
      refine h.before fun j => ?_
      by_cases hji : j = i
      · exact hji ▸ hai
      · rw [← k.others j hji]
        exact hb j
    · exact absurd hdone (hb i)
  after := by
    intro j hj
    rcases k.place_eq with ⟨hai, hbi, hp⟩ | ⟨hdone, hrec, mode, hfile⟩
    · have hji : j ≠ i := fun hji => hbi (hji ▸ hj)
      rw [k.others j hji] at hj
      obtain ⟨hrec, j', mode, hj', hfile⟩ := h.after j hj
      have hji' : j' ≠ i := fun hji => hai (hji ▸ hj')
      exact ⟨hrec, j', mode, by rw [k.others j' hji', hj'], hp.trans hfile⟩
    · exact ⟨hrec, i, mode, hdone, hfile⟩

/-- A writer that has a temporary file changes that file, or nothing. -/
theorem keeps_of_own_file {i : ι} {s s' : Stage} {t : Location}
    (h : Orderly fs p place contents a) (hs : a.stage i = s) (hs' : b.stage i = s')
    (hothers : ∀ j, j ≠ i → b.stage j = a.stage j) (hcwd : b.fs.cwd = a.fs.cwd)
    (hts : s.temporary? = some t) (hts' : s'.temporary? = some t)
    (htarget : ∀ target, s'.target? = some target → s.target? = some target)
    (hsame : ∀ x, x ≠ t → b.fs.get? x = a.fs.get? x)
    (hfile : ∃ mode part, b.fs.get? t = some (.file mode part) ∧
      ∀ rest, s'.owed? = some rest → part ++ rest = contents i) :
    Keeps fs p place contents a b i := by
  subst hs hs'
  have hplace := hsame place (h.held i t hts).ne_place.symm
  refine ⟨hothers, hcwd, ?_, ?_, ?_, ?_, .inl ⟨?_, ?_, hplace⟩⟩
  · intro x _ hx _
    exact hsame x fun hxt => hx (hxt ▸ hts)
  · intro t' ht hnot
    rw [hts] at ht
    exact absurd (ht ▸ hts') hnot
  · intro t' ht'
    obtain rfl : t = t' := Option.some.inj (hts'.symm.trans ht')
    obtain ⟨hnew, hne, -⟩ := h.held i t hts
    exact ⟨⟨hnew, hne, hfile⟩, fun j hji hj => hji (h.apart j i t hj hts)⟩
  · intro target ht
    exact (h.aims i target (htarget target ht)).mono fun hp => hplace ▸ hp
  · intro hd
    rw [hd] at hts
    cases hts
  · intro hd
    rw [hd] at hts'
    cases hts'

/-- A writer without a temporary file changes nothing. -/
theorem keeps_of_no_file {i : ι} {s s' : Stage} (hs : a.stage i = s) (hs' : b.stage i = s')
    (hothers : ∀ j, j ≠ i → b.stage j = a.stage j) (hfs : b.fs = a.fs)
    (hts : s.temporary? = none) (hts' : s'.temporary? = none) (hd : s ≠ .done) (hd' : s' ≠ .done)
    (haims : ∀ target, s'.target? = some target → Aims fs p place a.fs target) :
    Keeps fs p place contents a b i := by
  subst hs hs'
  refine ⟨hothers, by rw [hfs], fun x _ _ _ => by rw [hfs], ?_, ?_, fun target ht => ?_,
    .inl ⟨hd, hd', by rw [hfs]⟩⟩
  · intro t ht
    rw [hts] at ht
    cases ht
  · intro t ht
    rw [hts'] at ht
    cases ht
  · rw [hfs]
    exact haims target ht

/-- A new temporary file does not stand in the place. -/
theorem new_ne_place (h : Orderly fs p place contents a) (hhome : Home fs p place) {l : Location}
    {name : Name} (hnone : a.fs.get? (name :: l) = none)
    (hp : p.components.getLast? ≠ some (.down name)) : name :: l ≠ place := by
  rintro rfl
  have own {d : Location} {last : Name} (ho : Own fs p d last) (heq : name :: l = last :: d) :
      False := by
    cases heq
    obtain ⟨-, -, -, hlast⟩ := findHolder_eq_ok ho.holder
    exact hp hlast.symm
  generalize hplace : name :: l = place at hhome hnone h
  cases hhome with
  | resolved _ hl _ =>
    rcases h.place_cases with heq | ⟨mode, data, hfile⟩
    · rw [heq, hl] at hnone
      cases hnone
    · rw [hfile] at hnone
      cases hnone
  | unresolved _ _ _ ho _ => exact own ho hplace
  | absent ho _ => exact own ho hplace

/-- A new temporary file stands where nothing stood at first. -/
theorem new_at_first (h : Orderly fs p place contents a) {t : Location}
    (hnone : a.fs.get? t = none) (hne : t ≠ place) :
    (∀ i, (a.stage i).temporary? ≠ some t) ∧ fs.get? t = none := by
  have hno : ∀ i, (a.stage i).temporary? ≠ some t := by
    intro i hi
    obtain ⟨-, -, mode, part, hfile, -⟩ := h.held i t hi
    rw [hnone] at hfile
    cases hfile
  exact ⟨hno, (h.kept t hne hno).symm.trans hnone⟩

/-- **A writer creates its temporary file.** -/
theorem keeps_of_create {i : ι} {target : Path} {l : Location} {name : Name}
    (h : Orderly fs p place contents a) (hhome : Home fs p place)
    (hs : a.stage i = .preparing target)
    (hs' : b.stage i = .writing target (name :: l) (contents i))
    (hothers : ∀ j, j ≠ i → b.stage j = a.stage j)
    (hfs : b.fs = a.fs.put (name :: l) (.file temporaryMode []))
    (hfits : a.fs.Fits (name :: l) (.file temporaryMode [])) (hnone : a.fs.get? (name :: l) = none)
    (hp : p.components.getLast? ≠ some (.down name)) : Keeps fs p place contents a b i := by
  have hne := h.new_ne_place hhome hnone hp
  obtain ⟨hno, hnew⟩ := h.new_at_first hnone hne
  have hput : ∀ x, b.fs.get? x =
      if x = name :: l then some (.file temporaryMode []) else a.fs.get? x := by
    rw [hfs]
    exact get?_put hfits
  have hplace : b.fs.get? place = a.fs.get? place := by rw [hput, if_neg hne.symm]
  refine ⟨hothers, by rw [hfs, cwd_put], ?_, ?_, ?_, ?_, .inl ⟨?_, ?_, hplace⟩⟩
  · intro x _ _ hx
    rw [hput, if_neg]
    rintro rfl
    rw [hs'] at hx
    exact hx rfl
  · intro t ht
    rw [hs] at ht
    cases ht
  · intro t ht
    rw [hs'] at ht ⊢
    cases ht
    refine ⟨⟨hnew, hne, temporaryMode, [], by rw [hput, if_pos rfl], ?_⟩, fun j _ => hno j⟩
    rintro _ ⟨⟩
    rfl
  · intro target' ht
    refine (h.aims i target' ?_).mono fun hsome => hplace ▸ hsome
    rw [hs'] at ht
    rwa [hs]
  · simp [hs]
  · simp [hs']

/-- **A writer moves its temporary file, which holds all of its contents.** -/
theorem keeps_of_move {i : ι} {target : Path} {t : Location}
    (h : Orderly fs p place contents a) (hv : VariesAt place fs a.fs)
    (hs : a.stage i = .moving target t) (hs' : b.stage i = .done)
    (hothers : ∀ j, j ≠ i → b.stage j = a.stage j) (hren : a.fs.rename t target = .ok b.fs) :
    Keeps fs p place contents a b i := by
  obtain ⟨hnew, hne, mode, part, hfile, howed⟩ := h.held i t (by rw [hs]; rfl)
  obtain ⟨d, name, e, rfl, hlen, hslash, hd, hname, he, hfs⟩ :=
    (h.aims i target (by rw [hs]; rfl)).rename hv hren
  obtain rfl : e = .file mode part := Option.some.inj (he.symm.trans hfile)
  have hpart : part ++ [] = contents i := howed [] (by rw [hs]; rfl)
  have hget : ∀ x, b.fs.get? x = if x = name :: d then some (.file mode part)
      else if x = t then none else a.fs.get? x := by
    rw [hfs]
    exact get?_moved hfile hd hname hv.not_isDirAt'
  have hreceives : Receives p (name :: d) := by
    refine ⟨hslash, ?_⟩
    rintro _ ⟨⟩
    exact hlen
  refine ⟨hothers, by rw [hfs, cwd_put, cwd_remove], ?_, ?_, ?_, ?_,
    .inr ⟨hs', hreceives, mode, ?_⟩⟩
  · intro x hx hxt _
    rw [hget, if_neg hx, if_neg]
    rintro rfl
    rw [hs] at hxt
    exact hxt rfl
  · intro t' ht _
    rw [hs] at ht
    cases ht
    rw [hget, if_neg hne, if_pos rfl]
  · intro t' ht
    rw [hs'] at ht
    cases ht
  · intro target' ht
    rw [hs'] at ht
    cases ht
  · rw [hget, if_pos rfl, ← hpart, List.append_nil]

/-- **A writer takes its temporary file away.** -/
theorem keeps_of_remove {i : ι} {t : Location} (h : Orderly fs p place contents a)
    (hs : a.stage i = .undoing t) (hs' : b.stage i = .failed)
    (hothers : ∀ j, j ≠ i → b.stage j = a.stage j) (hfs : b.fs = a.fs.remove t) :
    Keeps fs p place contents a b i := by
  obtain ⟨hnew, hne, mode, part, hfile, -⟩ := h.held i t (by rw [hs]; rfl)
  have hget : ∀ x, b.fs.get? x = if x = t then none else a.fs.get? x := by
    rw [hfs]
    exact get?_remove (not_isDirAt_of_file hfile)
  refine ⟨hothers, by rw [hfs, cwd_remove], ?_, ?_, ?_, ?_, .inl ⟨by simp [hs], by simp [hs'], ?_⟩⟩
  · intro x _ hx _
    rw [hget, if_neg]
    rintro rfl
    rw [hs] at hx
    exact hx rfl
  · intro t' ht _
    rw [hs] at ht
    cases ht
    rw [hget, if_pos rfl]
  · intro t' ht
    rw [hs'] at ht
    cases ht
  · intro target ht
    rw [hs'] at ht
    cases ht
  · rw [hget, if_neg hne.symm]

/-- **Every call keeps what holds in between.** -/
theorem keeps_of_call (hhome : Home fs p place) (h : Orderly fs p place contents a) {i : ι}
    (hcall : Call p (contents i) a.fs (a.stage i) b.fs (b.stage i))
    (hothers : ∀ j, j ≠ i → b.stage j = a.stage j) : Keeps fs p place contents a b i := by
  have hv := h.variesAt hhome.not_isDirAt
  generalize hfs : a.fs = now at hcall hv
  generalize hfs' : b.fs = now' at hcall
  generalize hs : a.stage i = s at hcall
  generalize hs' : b.stage i = s' at hcall
  cases hcall with
  | resolve =>
    refine keeps_of_no_file hs hs' hothers (hfs'.trans hfs.symm) rfl rfl (by simp) (by simp) ?_
    rintro target ⟨⟩
    rw [← hfs] at hv ⊢
    exact hhome.aims hv h.place_cases
  | makeDir hq hmake =>
    rw [← hfs] at hv hmake
    exact absurd hmake ((h.aims i _ (by rw [hs]; rfl)).makeDir_ne_ok hv hq)
  | fail target =>
    refine keeps_of_no_file hs hs' hothers (hfs'.trans hfs.symm) rfl rfl (by simp) (by simp) ?_
    rintro target ⟨⟩
  | create hb hn hp hcreate =>
    obtain ⟨l, rfl, hnone, hfits, hput⟩ :=
      createFile_join_eq_ok hn (temporaryBase_ne_nil hb) hcreate
    rw [← hfs] at hnone hfits hput
    exact h.keeps_of_create hhome hs hs' hothers (hfs'.trans hput) hfits hnone hp
  | write target t part rest =>
    obtain ⟨hnew, hne, mode, old, hfile, howed⟩ := h.held i t (by rw [hs]; rfl)
    rw [hfs] at hfile
    have happ := get?_append hfile part
    refine h.keeps_of_own_file hs hs' hothers ?_ rfl rfl (fun _ ht => ht) (fun x hx => ?_) ?_
    · rw [hfs', hfs, cwd_append]
    · rw [hfs', hfs, happ, if_neg hx]
    · refine ⟨mode, old ++ part, by rw [hfs', happ, if_pos rfl], ?_⟩
      rintro _ ⟨⟩
      rw [List.append_assoc]
      exact howed _ (by rw [hs]; rfl)
  | ask target t =>
    obtain ⟨hnew, hne, mode, old, hfile, howed⟩ := h.held i t (by rw [hs]; rfl)
    refine h.keeps_of_own_file hs hs' hothers (by rw [hfs', hfs]) rfl rfl (fun _ ht => ht)
      (fun x _ => by rw [hfs', hfs]) ⟨mode, old, by rw [hfs', ← hfs, hfile], ?_⟩
    rintro _ ⟨⟩
    exact howed _ (by rw [hs]; rfl)
  | adopt target t bits =>
    obtain ⟨hnew, hne, mode, data, hfile, howed⟩ := h.held i t (by rw [hs]; rfl)
    rw [hfs] at hfile
    obtain ⟨mode', hset⟩ := get?_setBits hfile bits
    refine h.keeps_of_own_file hs hs' hothers ?_ rfl rfl (fun _ ht => ht) (fun x hx => ?_) ?_
    · rw [hfs', hfs, cwd_setBits]
    · rw [hfs', hfs, hset, if_neg hx]
    · refine ⟨mode', data, by rw [hfs', hset, if_pos rfl], ?_⟩
      rintro _ ⟨⟩
      exact howed _ (by rw [hs]; rfl)
  | move hren =>
    rw [← hfs] at hv hren
    rw [← hfs'] at hren
    exact h.keeps_of_move hv hs hs' hothers hren
  | giveUp ht =>
    rename_i t
    obtain ⟨hnew, hne, mode, data, hfile, -⟩ := h.held i t (by rw [hs, ht])
    refine h.keeps_of_own_file hs hs' hothers (by rw [hfs', hfs]) ht rfl ?_
      (fun x _ => by rw [hfs', hfs]) ⟨mode, data, by rw [hfs', ← hfs, hfile], ?_⟩
    · rintro _ ⟨⟩
    · rintro _ ⟨⟩
  | remove t =>
    rw [← hfs] at hfs'
    exact h.keeps_of_remove hs hs' hothers hfs'

end Orderly

/-! ## 4. Any number of calls -/

variable {fs : FileSystem} {place : Location} {a b : Scene ι}

/-- **What holds in between holds throughout.** -/
theorem orderly_of_runs (hhome : Home fs p place)
    (h : Runs p contents (Scene.beginning ι fs) b) : Orderly fs p place contents b := by
  induction h with
  | refl => exact .beginning fs p place contents
  | tail _ hstep ih =>
    cases hstep with
    | call i hcall hothers => exact ih.of_keeps (ih.keeps_of_call hhome hcall hothers)

/-- A writer that has moved its file has. -/
theorem done_of_runs {i : ι} (h : Runs p contents a b) (hi : a.stage i = .done) :
    b.stage i = .done := by
  induction h with
  | refl => exact hi
  | tail _ hstep ih =>
    cases hstep with
    | call j hcall hothers =>
      by_cases hij : i = j
      · rw [← hij, ih] at hcall
        exact absurd hcall Call.not_of_done
      · rw [hothers i hij, ih]

/-- **What the path reads as, at any moment: what it read as at first while no writer has moved its
    file, and the whole contents of one that has, afterwards.** -/
theorem read_during_runs (hbegins : Begins fs p)
    (h : Runs p contents (Scene.beginning ι fs) b) :
    ((∀ i, b.stage i ≠ .done) → b.fs.read p = fs.read p) ∧
      ∀ i, b.stage i = .done → ∃ j, b.stage j = .done ∧ b.fs.read p = .ok (contents j) := by
  obtain ⟨place, hhome⟩ := exists_home hbegins
  have ho := orderly_of_runs hhome h
  have hv := ho.variesAt hhome.not_isDirAt
  refine ⟨fun hnone => hhome.read_unchanged hv (ho.before hnone), fun i hi => ?_⟩
  obtain ⟨⟨hslash, hlen⟩, j, mode, hj, hfile⟩ := ho.after i hi
  exact ⟨j, hj, hhome.read_landed hv hfile hslash hlen⟩

end DeviceKeys.FileSystem
