import DeviceKeys.Proofs.FileSystem.Reading

/-! # Trees that differ in one place

While writers replace the file of a path, the tree they work on differs from the one they found in
the place where the new files land, and by files where nothing stood (`VariesAt`).

* `Home` says which place that is: the file that the path leads to; or, where the path cannot be
  resolved or nothing is there, the place of the last component of the path (`Own`).
* Whatever of these trees a writer looks at, it aims at that place (`Home.aims`, `Aims.rename`), and
  makes no directory (`Aims.makeDir_ne_ok`).
* A path reads as at first while its place is as it was (`Home.read_unchanged`), and then as the
  file that has landed there (`Home.read_landed`).
-/

namespace DeviceKeys.FileSystem

open DeviceKeys.Path (Step Name)

variable {fs fs' fs'' : FileSystem} {l m t place : Location} {p q target : Path} {data : Bytes}

/-! ## 1. Paths in front of whose last component nothing is missing -/

/-- Whatever a path names in front of its last component is there. -/
def Stands (fs : FileSystem) (p : Path) : Prop :=
  ∀ ⦃front rest : List Step⦄ ⦃name : Name⦄ ⦃ks : List Location⦄ ⦃c : Location⦄,
    p.components.dropLast = front ++ .down name :: rest →
      Route fs (startOf fs.cwd p) front ks c → (fs.get? (name :: c)).isSome = true

/-- Where steps lead on along a route, the next one finds something. -/
theorem Route.isSome_next {front rest : List Step} {name : Name} {ks ks' : List Location}
    {c : Location} (h : Route fs l (front ++ .down name :: rest) ks m)
    (hc : Route fs l front ks' c) : (fs.get? (name :: c)).isSome = true := by
  obtain ⟨ks₁, ks₂, c', -, h₁, h₂⟩ := h.exists_split
  obtain rfl := hc.unique h₁
  cases h₂ with
  | entry _ _ he _ _ => simp [he]
  | link _ _ he _ => simp [he]

theorem stands_of_route {ks : List Location}
    (h : Route fs (startOf fs.cwd p) p.components.dropLast ks m) : Stands fs p :=
  fun _ _ _ _ _ hs hc => (hs ▸ h).isSome_next hc

theorem stands_pathTo (h : (fs.get? l).isSome = true) : Stands fs (pathTo l) := by
  intro front rest name ks c hs hc
  rw [components_pathTo h] at hs
  cases l with
  | nil => cases front <;> cases hs
  | cons n l =>
    rw [List.reverse_cons, List.map_append, List.map_singleton, List.dropLast_concat] at hs
    obtain ⟨names, back, hl, rfl, hback⟩ := List.map_eq_append_iff.mp hs
    obtain ⟨name', back, rfl, hname, -⟩ := List.map_eq_cons_iff.mp hback
    cases hname
    have hdir : fs.isDirAt (back.reverse ++ name :: names.reverse) = true := by
      have hrev : l = back.reverse ++ name :: names.reverse := by
        rw [← List.reverse_reverse l, hl]
        simp
      exact hrev ▸ isDirAt_tail h
    have hnext := isDirAt_append hdir
    have hbase : fs.isDirAt (names.reverse ++ []) = true := by
      rw [List.append_nil]
      exact isDirAt_tail (get?_isSome_of_isDirAt hnext)
    obtain ⟨-, rfl⟩ := Route.of_names hbase hc
    rw [List.append_nil]
    exact get?_isSome_of_isDirAt hnext

/-- The components of what is in front of a path, as far as its text tells. -/
theorem components_of_mem_holderPath (h : q ∈ (holderPath p).ancestors) :
    (q.components <+: p.components.dropLast ∧ q.isAbsolute = p.isAbsolute) ∨
      q.components <+: [.here] := by
  obtain ⟨hq, habs⟩ := Path.components_of_mem_ancestors h
  unfold holderPath at hq habs
  split at hq
  · rename_i r hr
    rw [hr] at habs
    obtain ⟨hp, habs'⟩ := Path.components_parent hr
    simp only at habs
    split at hq
    · exact .inr hq
    · rename_i hne
      rw [if_neg hne] at habs
      exact .inl ⟨hq.trans hp, habs.trans habs'⟩
  · exact .inr hq

/-- **Where nothing is missing no directory is made.** -/
theorem Stands.makeDir_ne_ok (h : Stands fs p) (hq : q ∈ (holderPath p).ancestors) :
    fs.makeDir q ≠ .ok fs' := by
  intro hmake
  obtain ⟨c, name, hholder, -, hnone, -⟩ := makeDir_eq_ok hmake
  obtain ⟨-, hw, -, hlast⟩ := findHolder_eq_ok hholder
  obtain ⟨front, hfront⟩ := List.getLast?_eq_some_iff.mp hlast.symm
  obtain ⟨ks, -, hr⟩ := exists_route hw
  rw [hfront, List.dropLast_concat] at hr
  rcases components_of_mem_holderPath hq with ⟨⟨rest, hrest⟩, habs⟩ | ⟨rest, hrest⟩
  · have hs : p.components.dropLast = front ++ .down name :: rest := by
      rw [← hrest, hfront, List.append_assoc]
      rfl
    have hstart : startOf fs.cwd q = startOf fs.cwd p := by
      unfold startOf
      rw [habs]
    have := h hs (hstart ▸ hr)
    rw [hnone] at this
    cases this
  · rw [hfront] at hrest
    cases front with
    | nil => cases hrest
    | cons step front =>
      have := congrArg List.length hrest
      simp at this

/-! ## 2. Differing in one place -/

/-- The second tree differs from the first one in a place where neither has a directory, and by what
    stands where nothing stood, none of which is a directory. -/
structure VariesAt (place : Location) (fs fs' : FileSystem) : Prop where
  cwd : fs'.cwd = fs.cwd
  kept : ∀ {x : Location} {e : Entry}, x ≠ place → fs.get? x = some e → fs'.get? x = some e
  not_isDirAt_new : ∀ {x : Location}, fs.get? x = none → fs'.isDirAt x = false
  not_isDirAt : fs.isDirAt place = false
  not_isDirAt' : fs'.isDirAt place = false

theorem VariesAt.refl (h : fs.isDirAt place = false) : VariesAt place fs fs where
  cwd := rfl
  kept := fun _ hx => hx
  not_isDirAt_new := not_isDirAt_of_none
  not_isDirAt := h
  not_isDirAt' := h

namespace VariesAt

variable (h : VariesAt place fs fs')
include h

theorem isDirAt_eq (x : Location) : fs'.isDirAt x = fs.isDirAt x := by
  by_cases hx : x = place
  · rw [hx, h.not_isDirAt, h.not_isDirAt']
  · cases he : fs.get? x with
    | none => rw [h.not_isDirAt_new he, not_isDirAt_of_none he]
    | some e =>
      unfold FileSystem.isDirAt
      rw [h.kept hx he, he]

/-- A route that does not pass the place as a link stays one. -/
theorem route {steps : List Step} {ks : List Location} (hr : Route fs l steps ks m)
    (hks : place ∈ ks → fs'.get? place = fs.get? place)
    (hm : fs.isDirAt m = false → ∃ e, fs'.get? m = some e ∧ ∀ t, e ≠ .link t) :
    Route fs' l steps ks m := by
  refine hr.transfer (fun x hx => (h.isDirAt_eq x).trans hx) (fun x hx => ?_) hm
  by_cases hxp : x = place
  · rw [hxp]
    exact hks (hxp ▸ hx)
  · obtain ⟨target, ht⟩ := hr.link_of_mem hx
    rw [ht, h.kept hxp ht]

/-- A route to a directory stays one. -/
theorem route_to_dir {steps : List Step} {ks : List Location} (hr : Route fs l steps ks m)
    (hks : place ∉ ks) (hm : fs.isDirAt m = true) : Route fs' l steps ks m :=
  h.route hr (fun hk => absurd hk hks) fun hf => by rw [hm] at hf; cases hf

end VariesAt

/-! ## 3. The place of a path -/

/-- The place of the last component of a path, which the path does not pass on the way as a link. -/
structure Own (fs : FileSystem) (p : Path) (d : Location) (name : Name) : Prop where
  holder : fs.findHolder p = .ok (d, some (.down name))
  avoids : ∃ ks, ks.length ≤ linkLimit ∧
    Route fs (startOf fs.cwd p) p.components.dropLast ks d ∧ name :: d ∉ ks

/-- The place that a replacement of the file of a path gives new contents: the file that the path
    leads to, if the path can be resolved; else the place of the last component of the path, be it
    that of a file or of a link that leads to one, or be nothing there. -/
inductive Home (fs : FileSystem) (p : Path) : Location → Prop
  | resolved {l : Location} {mode : Nat} {data : Bytes} (hf : fs.find p = .ok l)
      (hl : fs.get? l = some (.file mode data)) (hs : fs.Resolvable p) : Home fs p l
  | unresolved {m d : Location} {name : Name} {mode : Nat} {data : Bytes} (hf : fs.find p = .ok m)
      (hm : fs.get? m = some (.file mode data)) (hs : ¬fs.Resolvable p)
      (ho : Own fs p d name) (hd : fs.isDirAt (name :: d) = false) : Home fs p (name :: d)
  | absent {d : Location} {name : Name} (ho : Own fs p d name)
      (hn : fs.get? (name :: d) = none) : Home fs p (name :: d)

/-- The path leads to a file, or its last component is missing from a directory that is there. -/
def Begins (fs : FileSystem) (p : Path) : Prop :=
  (∃ data, fs.read p = .ok data) ∨
    ∃ d name, fs.findHolder p = .ok (d, some (.down name)) ∧ fs.get? (name :: d) = none

/-- A path that leads to a file ends with a name, in a directory to which the components in front
    of it lead. -/
theorem exists_last_name {mode : Nat} (hf : fs.find p = .ok m)
    (hm : fs.get? m = some (.file mode data)) : ∃ front name ks₁ ks₂ d,
      p.components = front ++ [.down name] ∧ p.endsInSlash = false ∧
        (ks₁ ++ ks₂).length ≤ linkLimit ∧ Route fs (startOf fs.cwd p) front ks₁ d ∧
          Route fs d [.down name] ks₂ m := by
  obtain ⟨hc, hw⟩ := find_eq_ok_iff.mp hf
  obtain ⟨ks, hk, hr⟩ := exists_route hw
  have hfile := not_isDirAt_of_file hm
  have hne : p.steps ≠ [] := Path.steps_ne_nil fun hnil => by
    have := (checkPath_eq_ok_iff.mp hc).1
    simp [checkBytes, hnil] at this
  obtain ⟨front, step, hs⟩ : ∃ front step, p.steps = front ++ [step] :=
    ⟨_, _, (List.dropLast_concat_getLast hne).symm⟩
  rw [hs] at hr
  obtain ⟨ks₁, ks₂, d, rfl, h₁, h₂⟩ := hr.exists_split
  cases step with
  | here =>
    cases h₂ with
    | here hd hr =>
      cases hr
      rw [hd] at hfile
      cases hfile
  | up =>
    cases h₂ with
    | up hd hr =>
      cases hr
      rw [isDirAt_tail (get?_isSome_of_isDirAt hd)] at hfile
      cases hfile
  | down name =>
    have hslash : p.endsInSlash = false := by
      unfold Path.steps at hs
      cases hends : p.endsInSlash with
      | false => rfl
      | true =>
        rw [hends, if_pos rfl] at hs
        have := congrArg List.getLast? hs
        simp at this
    rw [Path.steps_of_not_endsInSlash hslash] at hs
    exact ⟨front, name, ks₁, ks₂, d, hs, hslash, hk, h₁, h₂⟩

/-- **Every path that begins so has its place.** -/
theorem exists_home (h : Begins fs p) : ∃ place, Home fs p place := by
  rcases h with ⟨data, hread⟩ | ⟨d, name, hholder, hnone⟩
  · obtain ⟨m, mode, hf, hm⟩ := read_eq_ok_iff.mp hread
    by_cases hs : fs.Resolvable p
    · exact ⟨m, .resolved hf hm hs⟩
    obtain ⟨front, name, ks₁, ks₂, d, hcomp, -, hk, h₁, h₂⟩ := exists_last_name hf hm
    have hd := h₂.isDirAt_of_cons
    have hdrop : p.components.dropLast = front := by rw [hcomp, List.dropLast_concat]
    have hw := walk_of_route (hdrop ▸ h₁) (Nat.le_trans (by simp) hk)
    have hholder : fs.findHolder p = .ok (d, some (.down name)) := by
      rw [findHolder_of_walk (find_eq_ok_iff.mp hf).1 hw hd, hcomp, List.getLast?_concat]
    refine ⟨name :: d, .unresolved hf hm hs ⟨hholder, ks₁, Nat.le_trans (by simp) hk,
      hdrop ▸ h₁, fun hmem => ?_⟩ ?_⟩
    · obtain ⟨target, ks', d', hlink, hdir, hdd⟩ := h₁.link_to_dir hd hmem
      exact not_dir_of_route_to_file (.inl rfl) hlink hdir hdd h₂ hm
    · cases h₂ with
      | entry _ _ _ _ hr =>
        cases hr
        exact not_isDirAt_of_file hm
      | link _ _ he _ => simp [isDirAt, he, Entry.isDir]
  · obtain ⟨-, hw, hd, -⟩ := findHolder_eq_ok hholder
    obtain ⟨ks, hk, hr⟩ := exists_route hw
    refine ⟨name :: d, .absent ⟨hholder, ks, hk, hr, fun hmem => ?_⟩ hnone⟩
    obtain ⟨target, ht⟩ := hr.link_of_mem hmem
    rw [hnone] at ht
    cases ht

/-! ## 4. What a writer aims at -/

theorem Home.not_isDirAt (h : Home fs p place) : fs.isDirAt place = false := by
  cases h with
  | resolved _ hl _ => exact not_isDirAt_of_file hl
  | unresolved _ _ _ _ hd => exact hd
  | absent _ hn => exact not_isDirAt_of_none hn

/-- The route to the holder of the place stays one. -/
theorem Own.route {d : Location} {name : Name} (ho : Own fs p d name)
    (hv : VariesAt (name :: d) fs fs') : ∃ ks, ks.length ≤ linkLimit ∧
      Route fs' (startOf fs'.cwd p) p.components.dropLast ks d := by
  obtain ⟨ks, hk, hr, hmem⟩ := ho.avoids
  obtain ⟨-, -, hd, -⟩ := findHolder_eq_ok ho.holder
  rw [hv.cwd]
  exact ⟨ks, hk, hv.route_to_dir hr hmem hd⟩

theorem Own.findHolder {d : Location} {name : Name} (ho : Own fs p d name)
    (hv : VariesAt (name :: d) fs fs') : fs'.findHolder p = .ok (d, some (.down name)) := by
  obtain ⟨hc, -, hd, hlast⟩ := findHolder_eq_ok ho.holder
  obtain ⟨ks, hk, hr⟩ := ho.route hv
  rw [hlast]
  exact findHolder_of_walk hc (walk_of_route hr hk) ((hv.isDirAt_eq d).trans hd)

/-- A target that a writer has told: the path without links of what stands in the place, or the path
    itself. -/
inductive Aims (fs : FileSystem) (p : Path) (place : Location) (fs' : FileSystem) : Path → Prop
  | place (hslash : p.endsInSlash = false) (hs : (fs'.get? place).isSome = true) :
      Aims fs p place fs' (pathTo place)
  | path {d : Location} {name : Name} (ho : Own fs p d name) (hp : place = name :: d) :
      Aims fs p place fs' p

/-- A target stays one while something stands in the place. -/
theorem Aims.mono (h : Aims fs p place fs' target)
    (hs : (fs'.get? place).isSome = true → (fs''.get? place).isSome = true) :
    Aims fs p place fs'' target := by
  cases h with
  | place hslash hs' => exact .place hslash (hs hs')
  | path ho hp => exact .path ho hp

theorem replaceTarget_of_find (h : fs.find p = .ok m) : fs.replaceTarget p =
    if fs.Resolvable p then pathTo m else p := by
  obtain ⟨hc, hw⟩ := find_eq_ok_iff.mp h
  exact replaceTarget_of_walk (checkPath_eq_ok_iff.mp hc).1 hw

/-- A file that the path leads to is found in the place, if its last component stands there. -/
theorem Own.eq_of_find {d : Location} {name : Name} {mode : Nat} (ho : Own fs p d name)
    (hv : VariesAt (name :: d) fs fs') (hfile : fs'.get? (name :: d) = some (.file mode data))
    (hc : checkBytes p = .ok ())
    (hw : fs'.walk true linkLimit (startOf fs'.cwd p) p.steps = .ok (.found m)) :
    m = name :: d ∧ p.endsInSlash = false := by
  obtain ⟨ks, hr⟩ := exists_last_route (.refl fs') hw (exists_entry_of_walk hc hw)
    (ho.findHolder hv)
  cases hr with
  | link _ _ he _ =>
    rw [hfile] at he
    cases he
  | entry _ _ _ _ hr =>
    cases hslash : p.endsInSlash with
    | false =>
      rw [hslash] at hr
      cases hr
      exact ⟨rfl, rfl⟩
    | true =>
      rw [hslash, if_pos rfl] at hr
      have hd := hr.isDirAt_of_cons
      rw [not_isDirAt_of_file hfile] at hd
      cases hd

/-- Nothing is found where the last component is missing. -/
theorem Own.not_found {d : Location} {name : Name} (ho : Own fs p d name)
    (hv : VariesAt (name :: d) fs fs') (hn : fs'.get? (name :: d) = none)
    (hc : checkBytes p = .ok ()) :
    fs'.walk true linkLimit (startOf fs'.cwd p) p.steps ≠ .ok (.found m) := by
  intro hw
  obtain ⟨ks, hr⟩ := exists_last_route (.refl fs') hw (exists_entry_of_walk hc hw)
    (ho.findHolder hv)
  cases hr with
  | entry _ _ he _ _ | link _ _ he _ =>
    rw [hn] at he
    cases he

/-- A path that led to a file leads to it while its place is as it was, or is that file, and is
    resolved as at first. -/
theorem VariesAt.find (hv : VariesAt place fs fs') {mode : Nat} (hf : fs.find p = .ok m)
    (hm : fs.get? m = some (.file mode data))
    (hp : fs'.get? place = fs.get? place ∨
      m = place ∧ ∃ mode data, fs'.get? place = some (.file mode data)) :
    fs'.find p = .ok m ∧ (fs'.Resolvable p ↔ fs.Resolvable p) := by
  obtain ⟨hc, hw⟩ := find_eq_ok_iff.mp hf
  obtain ⟨ks, hk, hr⟩ := exists_route hw
  have hlinks : place ∈ ks → fs'.get? place = fs.get? place := by
    intro hmem
    rcases hp with hp | ⟨rfl, -⟩
    · exact hp
    · obtain ⟨target, ht⟩ := hr.link_of_mem hmem
      rw [hm] at ht
      cases ht
  have hr' : Route fs' (startOf fs.cwd p) p.steps ks m := by
    refine hv.route hr hlinks fun _ => ?_
    rcases hp with hp | ⟨rfl, mode', data', hfile⟩
    · by_cases hmp : m = place
      · exact ⟨_, by rw [hmp, hp, ← hmp, hm], by simp⟩
      · exact ⟨_, hv.kept hmp hm, by simp⟩
    · exact ⟨_, hfile, by simp⟩
  have hasked : fs'.asked p = fs.asked p := by
    unfold asked
    rw [hv.cwd]
    refine hr.askedOn_eq hr' (fun x hx => ?_) hk
    by_cases hxp : x = place
    · exact hxp ▸ hlinks (hxp ▸ hx)
    · obtain ⟨target, ht⟩ := hr.link_of_mem hx
      rw [ht, hv.kept hxp ht]
  refine ⟨find_eq_ok_iff.mpr ⟨hc, ?_⟩, by unfold Resolvable; rw [hasked]⟩
  rw [hv.cwd]
  exact walk_of_route hr' hk

/-- **Whenever a writer tells its target, it aims at the place.** -/
theorem Home.aims (h : Home fs p place) (hv : VariesAt place fs fs')
    (hp : fs'.get? place = fs.get? place ∨ ∃ mode data, fs'.get? place = some (.file mode data)) :
    Aims fs p place fs' (fs'.replaceTarget p) := by
  have own {d : Location} {name : Name} (ho : Own fs p d name) (hplace : place = name :: d)
      (hfile : ∃ mode data, fs'.get? place = some (.file mode data)) :
      Aims fs p place fs' (fs'.replaceTarget p) := by
    subst hplace
    obtain ⟨mode, data, hfile⟩ := hfile
    rcases replaceTarget_cases fs' p with ⟨m, hc, hw, -, ht⟩ | ht
    · obtain ⟨rfl, hslash⟩ := ho.eq_of_find hv hfile hc hw
      rw [ht]
      exact .place hslash (by simp [hfile])
    · rw [ht]
      exact .path ho rfl
  cases h with
  | resolved hf hl hs =>
    obtain ⟨hf', hres⟩ := hv.find hf hl (hp.imp_right fun h => ⟨rfl, h⟩)
    obtain ⟨-, -, -, -, -, -, hslash, -⟩ := exists_last_name hf hl
    rw [replaceTarget_of_find hf', if_pos (hres.mpr hs)]
    refine .place hslash ?_
    rcases hp with hp | ⟨mode, data, hfile⟩
    · simp [hp, hl]
    · simp [hfile]
  | unresolved hf hm hs ho hd =>
    rcases hp with hp | hfile
    · obtain ⟨hf', hres⟩ := hv.find hf hm (.inl hp)
      rw [replaceTarget_of_find hf', if_neg (mt hres.mp hs)]
      exact .path ho rfl
    · exact own ho rfl hfile
  | absent ho hn =>
    rcases hp with hp | hfile
    · rcases replaceTarget_cases fs' p with ⟨m, hc, hw, -, -⟩ | ht
      · exact absurd hw (ho.not_found hv (hp.trans hn) hc)
      · rw [ht]
        exact .path ho rfl
    · exact own ho rfl hfile

/-- **A writer that aims at the place makes no directory.** -/
theorem Aims.makeDir_ne_ok (h : Aims fs p place fs' target) (hv : VariesAt place fs fs')
    (hq : q ∈ (holderPath target).ancestors) : fs'.makeDir q ≠ .ok fs'' := by
  cases h with
  | place _ hs => exact (stands_pathTo hs).makeDir_ne_ok hq
  | path ho hp =>
    subst hp
    obtain ⟨ks, -, hr⟩ := ho.route hv
    exact (stands_of_route hr).makeDir_ne_ok hq

/-- **What a writer that aims at the place moves there.** -/
theorem Aims.rename (h : Aims fs p place fs' target) (hv : VariesAt place fs fs')
    (hren : fs'.rename t target = .ok fs'') : ∃ d name e, place = name :: d ∧
      name.length ≤ nameLimit ∧ p.endsInSlash = false ∧ fs'.isDirAt d = true ∧
        IsNamed (name :: d) ∧ fs'.get? t = some e ∧ fs'' = (fs'.remove t).put place e := by
  obtain ⟨d, name, e, hholder, hlen, hslash, -, he, rfl⟩ := rename_eq_ok hren
  obtain ⟨-, -, hd, -⟩ := findHolder_eq_ok hholder
  have hname := isNamed_of_findHolder hholder hlen
  cases h with
  | place hslash' hs =>
    obtain ⟨rfl, -⟩ := findHolder_pathTo hs hholder rfl
    exact ⟨d, name, e, rfl, hlen, hslash', hd, hname, he, rfl⟩
  | path ho hp =>
    subst hp
    cases (ho.findHolder hv).symm.trans hholder
    exact ⟨d, name, e, rfl, hlen, hslash, hd, hname, he, rfl⟩

/-! ## 5. What the path reads as -/

theorem read_of_find_error {e : IoFault} (h : fs.find p = .error e) : fs.read p = .error e := by
  unfold read
  rw [h]
  rfl

/-- While nothing stands there, the last component is told to be missing, or too long for a name. -/
theorem Own.read_absent {d : Location} {name : Name} (ho : Own fs p d name)
    (hv : VariesAt (name :: d) fs fs') (hn : fs'.get? (name :: d) = none) :
    fs'.read p = .error (if nameLimit < name.length then .nameTooLong else .noEntry) := by
  obtain ⟨hc, -, hd, hlast⟩ := findHolder_eq_ok ho.holder
  obtain ⟨ks, hk, hr⟩ := ho.route hv
  have hd' := (hv.isDirAt_eq d).trans hd
  refine read_of_find_error ?_
  unfold find locate
  rw [hc, Path.steps_of_getLast? hlast.symm]
  simp only [bind, Except.bind]
  rw [walk_route hr hk]
  by_cases hlen : nameLimit < name.length
  · rw [walk_tooLong hd' hlen, if_pos hlen]
  · rw [walk_absent hd' (Nat.not_lt.mp hlen) hn, if_neg hlen]
    cases p.endsInSlash <;> rfl

/-- What a path reads as at first. -/
theorem Begins.read (h : Begins fs p) : (∃ data, fs.read p = .ok data) ∨
    ∃ name, p.components.getLast? = some (.down name) ∧
      fs.read p = .error (if nameLimit < name.length then .nameTooLong else .noEntry) := by
  obtain ⟨place, hhome⟩ := exists_home h
  cases hhome with
  | resolved hf hm _ | unresolved hf hm _ _ _ => exact .inl ⟨_, read_eq_ok_iff.mpr ⟨_, _, hf, hm⟩⟩
  | @absent d name ho hn =>
    obtain ⟨-, -, -, hlast⟩ := findHolder_eq_ok ho.holder
    exact .inr ⟨name, hlast.symm, ho.read_absent (.refl (not_isDirAt_of_none hn)) hn⟩

/-- **While its place is as it was, the path reads as at first.** -/
theorem Home.read_unchanged (h : Home fs p place) (hv : VariesAt place fs fs')
    (hp : fs'.get? place = fs.get? place) : fs'.read p = fs.read p := by
  have led {m : Location} {mode : Nat} {data : Bytes} (hf : fs.find p = .ok m)
      (hm : fs.get? m = some (.file mode data)) : fs'.read p = fs.read p := by
    have hm' : fs'.get? m = some (.file mode data) := by
      by_cases hmp : m = place
      · rw [hmp, hp, ← hmp, hm]
      · exact hv.kept hmp hm
    rw [read_eq_ok_iff.mpr ⟨m, mode, hf, hm⟩]
    exact read_eq_ok_iff.mpr ⟨m, mode, (hv.find hf hm (.inl hp)).1, hm'⟩
  cases h with
  | resolved hf hl _ => exact led hf hl
  | unresolved hf hm _ _ _ => exact led hf hm
  | absent ho hn =>
    rw [ho.read_absent hv (hp.trans hn), ho.read_absent (.refl hv.not_isDirAt) hn]

/-- **What has landed in its place is what the path reads as.** -/
theorem Home.read_landed (h : Home fs p place) (hv : VariesAt place fs fs') {mode : Nat}
    (hfile : fs'.get? place = some (.file mode data)) (hslash : p.endsInSlash = false)
    (hlen : ∀ name ∈ place.head?, name.length ≤ nameLimit) : fs'.read p = .ok data := by
  have own {d : Location} {name : Name} (ho : Own fs p d name) (hplace : place = name :: d) :
      fs'.read p = .ok data := by
    subst hplace
    obtain ⟨hc, -, -, hlast⟩ := findHolder_eq_ok ho.holder
    obtain ⟨ks, hk, hr⟩ := ho.route hv
    exact read_of_holder hc hr hk hlast.symm hslash (hlen name rfl) hfile
  cases h with
  | resolved hf hl _ =>
    have hf' := (hv.find hf hl (.inr ⟨rfl, mode, data, hfile⟩)).1
    exact read_eq_ok_iff.mpr ⟨_, mode, hf', hfile⟩
  | unresolved _ _ _ ho _ => exact own ho rfl
  | absent ho _ => exact own ho rfl

end DeviceKeys.FileSystem
