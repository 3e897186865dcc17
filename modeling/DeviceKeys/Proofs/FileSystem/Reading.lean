import DeviceKeys.Proofs.FileSystem.Replace
import DeviceKeys.Proofs.FileSystem.Resolving

/-! # Reading what a replacement wrote

After a replacement that succeeds, its path reads as the new contents, with two exceptions
(`Replaced.read_eq`):

* the path is longer than a path to be opened may be, though it could be resolved name by name;
* `severs`: the entry that the new file takes the place of is a link that the path itself passes on
  the way. Then the path led to no file before the replacement (`severs_eq_false_of_read`).

A path that led to a file has that file replaced, and no other (`Replaced.eq_of_read`).

The two ways in which the target is told come together here: the path that leads to a file is
resolved to the only path of that file without links (`Route.of_names`), and one that leads nowhere
stands for itself.
-/

namespace DeviceKeys.FileSystem

open DeviceKeys.Path (Step Name)

variable {fs fs' : FileSystem} {l m : Location} {p : Path} {data : Bytes}

/-! ## 1. Finding -/

/-- Of the paths that are refused, only the empty one is refused as missing. -/
theorem bytes_of_checkPath_noEntry (h : checkPath p = .error .noEntry) : p.bytes = [] := by
  unfold checkPath checkBytes at h
  split at h
  · cases h
  split at h
  · rename_i hnil
    exact List.isEmpty_iff.mp hnil
  · simp only [bind, Except.bind] at h
    split at h <;> cases h

theorem find_eq_ok_iff : fs.find p = .ok l ↔
    checkPath p = .ok () ∧ fs.walk true linkLimit (startOf fs.cwd p) p.steps = .ok (.found l) := by
  unfold find locate
  cases checkPath p with
  | error e => simp [bind, Except.bind]
  | ok u =>
    cases fs.walk true linkLimit (startOf fs.cwd p) p.steps with
    | error e => simp [bind, Except.bind]
    | ok t => cases t <;> simp [bind, Except.bind]

theorem read_eq_ok_iff : fs.read p = .ok data ↔
    ∃ l mode, fs.find p = .ok l ∧ fs.get? l = some (.file mode data) := by
  unfold read
  cases fs.find p with
  | error e => simp [bind, Except.bind]
  | ok l =>
    simp only [bind, Except.bind, Except.ok.injEq, exists_and_left, exists_eq_left']
    split
    · rename_i mode data' he
      simp [he]
    · rename_i hne
      constructor
      · intro h; cases h
      · rintro ⟨mode, he⟩
        exact absurd he (hne mode data)

theorem read_of_checkPath_error {e : IoFault} (h : checkPath p = .error e) :
    fs.read p = .error e := by
  unfold FileSystem.read find locate
  rw [h]
  rfl

theorem read_of_walk_error {e : IoFault} (hc : checkPath p = .ok ())
    (h : fs.walk true linkLimit (startOf fs.cwd p) p.steps = .error e) :
    fs.read p = .error e := by
  unfold read find locate
  rw [hc, h]
  rfl

/-- The target of a link is followed from a directory. -/
theorem isDirAt_startOf (hl : fs.isDirAt l = true) (p : Path) :
    fs.isDirAt (startOf l p) = true := by
  unfold startOf
  split
  · exact isDirAt_top fs
  · exact hl

/-- A path starts in a directory, or in a working directory that was taken away. -/
theorem startOf_eq_nowhere (h : fs.isDirAt (startOf fs.cwd p) = false) :
    startOf fs.cwd p = nowhere := by
  unfold startOf at h ⊢
  split at h
  · rw [isDirAt_top] at h
    cases h
  · rename_i hrel
    rw [if_neg hrel]
    refine fs.inside.resolve_left fun hin => ?_
    rw [show fs.isDirAt fs.cwd = true from hin] at h
    cases h

/-- Where a path does not start in a directory, nothing stands in any tree. -/
theorem get?_startOf (fs' : FileSystem) (h : fs.isDirAt (startOf fs.cwd p) = false) :
    fs'.get? (startOf fs.cwd p) = fs.get? (startOf fs.cwd p) := by
  rw [startOf_eq_nowhere h, get?_nowhere, get?_nowhere]

/-- The start of a path is a directory as soon as a step is taken from it, so a route of a path
    ends at something, and not at a link. -/
theorem Route.exists_end {steps : List Step} {ks : List Location} (h : Route fs l steps ks m)
    (hl : fs.isDirAt l = true) : ∃ e, fs.get? m = some e ∧ ∀ t, e ≠ .link t := by
  induction h with
  | done l =>
    obtain ⟨mode, hmode⟩ := exists_dir hl
    exact ⟨_, hmode, by simp⟩
  | here _ _ ih => exact ih hl
  | up hl _ ih => exact ih (isDirAt_tail (get?_isSome_of_isDirAt hl))
  | @entry l m name rest ks e _ _ he hlink hr ih =>
    cases rest with
    | nil =>
      cases hr
      exact ⟨e, he, hlink⟩
    | cons step rest => exact ih hr.isDirAt_of_cons
  | link hl' _ _ _ ih => exact ih (isDirAt_startOf hl' _)

/-- A path leads to something that is no link. -/
theorem exists_entry_of_walk (hc : checkBytes p = .ok ())
    (hw : fs.walk true linkLimit (startOf fs.cwd p) p.steps = .ok (.found l)) :
    ∃ e, fs.get? l = some e ∧ ∀ t, e ≠ .link t := by
  obtain ⟨ks, -, hr⟩ := exists_route hw
  have hne : p.bytes ≠ [] := by
    intro hnil
    unfold checkBytes at hc
    simp [hnil] at hc
  refine hr.exists_end ?_
  cases hs : p.steps with
  | nil => exact absurd hs (Path.steps_ne_nil hne)
  | cons step rest =>
    rw [hs] at hr
    exact hr.isDirAt_of_cons

/-- A path reads as the file that its last component names in the directory to which the others
    lead. -/
theorem read_of_holder {name : Name} {ks : List Location} {mode : Nat}
    (hc : checkPath p = .ok ()) (hr : Route fs (startOf fs.cwd p) p.components.dropLast ks l)
    (hk : ks.length ≤ linkLimit) (hlast : p.components.getLast? = some (.down name))
    (hslash : p.endsInSlash = false) (hlen : name.length ≤ nameLimit)
    (hfile : fs.get? (name :: l) = some (.file mode data)) : fs.read p = .ok data := by
  have hl : fs.isDirAt l = true := isDirAt_tail (by rw [hfile]; rfl)
  refine read_eq_ok_iff.mpr ⟨name :: l, mode, find_eq_ok_iff.mpr ⟨hc, ?_⟩, hfile⟩
  rw [Path.steps_of_getLast? hlast, walk_route hr hk, hslash, walk_entry hl hlen hfile (by simp)]
  exact walk_nil

/-! ## 2. The path without links -/

/-- The only route along names to a directory passes no link. -/
theorem Route.of_names : ∀ {names : List Name} {base : Location} {ks : List Location},
    fs.isDirAt (names.reverse ++ base) = true → Route fs base (names.map .down) ks m →
      ks = [] ∧ m = names.reverse ++ base
  | [], base, ks, _, h => by
    cases h
    exact ⟨rfl, rfl⟩
  | name :: names, base, ks, hd, h => by
    have hd' : fs.isDirAt (names.reverse ++ name :: base) = true := by
      simpa using hd
    obtain ⟨mode, hmode⟩ := exists_dir (isDirAt_append hd')
    rw [List.map_cons] at h
    cases h with
    | entry _ _ _ _ hr =>
      obtain ⟨hks, hm⟩ := Route.of_names hd' hr
      exact ⟨hks, by simp [hm]⟩
    | link _ _ he _ =>
      rw [hmode] at he
      cases he

/-- Along the names on the way to a directory there is that route. -/
theorem Route.along_names : ∀ {names : List Name} {base : Location},
    fs.isDirAt (names.reverse ++ base) = true →
      Route fs base (names.map .down) [] (names.reverse ++ base)
  | [], base, _ => .done base
  | name :: names, base, hd => by
    have hd' : fs.isDirAt (names.reverse ++ name :: base) = true := by
      simpa using hd
    have hname := isDirAt_append hd'
    obtain ⟨mode, hmode⟩ := exists_dir hname
    have hsome := get?_isSome_of_isDirAt hname
    obtain ⟨-, hlen, -⟩ := isNamed_cons.mp (fs.named _ hsome)
    rw [List.map_cons, List.reverse_cons, List.append_assoc, List.singleton_append]
    exact .entry (isDirAt_tail hsome) hlen hmode (by simp) (Route.along_names hd')

/-- The path without links of what stands somewhere has the names on the way as components. -/
theorem components_pathTo (h : (fs.get? l).isSome = true) :
    (pathTo l).components = l.reverse.map .down :=
  Path.components_ofNames fun n hn => isName_of_mem h n (List.mem_reverse.mp hn)

/-- The last component of the path without links names just what the path is of. -/
theorem findHolder_pathTo {r : Location × Option Step} (h : (fs.get? l).isSome = true)
    (hf : fs.findHolder (pathTo l) = .ok r) {name : Name} (hr : r.2 = some (.down name)) :
    name :: r.1 = l ∧
      fs.linksOn linkLimit (startOf fs.cwd (pathTo l)) (pathTo l).components.dropLast = [] := by
  obtain ⟨d, s⟩ := r
  obtain ⟨-, hw, hd, hs⟩ := findHolder_eq_ok hf
  obtain rfl : s = some (.down name) := hr
  rw [components_pathTo h] at hw hs ⊢
  cases l with
  | nil => cases hs
  | cons n l =>
    rw [List.reverse_cons, List.map_append, List.map_singleton, List.getLast?_concat] at hs
    rw [List.reverse_cons, List.map_append, List.map_singleton, List.dropLast_concat] at hw ⊢
    cases hs
    obtain ⟨ks, hk, hroute⟩ := exists_route hw
    have hdir : fs.isDirAt (l.reverse.reverse ++ []) = true := by
      simpa using isDirAt_tail h
    obtain ⟨rfl, hm⟩ := Route.of_names hdir hroute
    refine ⟨?_, linksOn_route hroute hk⟩
    simpa using hm

/-! ## 3. The target of a replacement -/

/-- The new file takes the place of a link that the target itself passes on the way. The target is
    what `replaceTarget` gives: where the resolving of paths changes, so does this. -/
def severs (fs : FileSystem) (p : Path) : Bool :=
  let target := fs.replaceTarget p
  match (fs.prepared p).findHolder target with
  | .ok (l, some (.down name)) =>
    decide (name :: l ∈
      (fs.prepared p).linksOn linkLimit (startOf fs.cwd target) target.components.dropLast)
  | _ => false

namespace Replaced

variable {name : Name} (h : Replaced fs p data fs' l name)
include h

theorem severs_eq : fs.severs p = decide (name :: l ∈ (fs.prepared p).linksOn linkLimit
    (startOf fs.cwd (fs.replaceTarget p)) (fs.replaceTarget p).components.dropLast) := by
  unfold severs
  simp only [h.holder]

theorem get?_landing : ∃ mode, fs'.get? (name :: l) = some (.file mode data) := by
  obtain ⟨mode, hget⟩ := h.get?_eq
  exact ⟨mode, by rw [hget, if_pos rfl]⟩

theorem get?_other {x : Location} (hx : x ≠ name :: l) : fs'.get? x = (fs.prepared p).get? x := by
  obtain ⟨mode, hget⟩ := h.get?_eq
  rw [hget, if_neg hx]

theorem isDirAt {x : Location} (hx : (fs.prepared p).isDirAt x = true) :
    fs'.isDirAt x = true := by
  have hne : x ≠ name :: l := by
    rintro rfl
    rw [h.not_isDirAt] at hx
    cases hx
  obtain ⟨mode, hmode⟩ := exists_dir hx
  exact isDirAt_of_get? ((h.get?_other hne).trans hmode)

/-- A path that led to something leads, after the replacement, to the new file if that stands where
    the path led. -/
theorem walk_found {steps : List Step} {start : Location}
    (hw : fs.walk true linkLimit start steps = .ok (.found (name :: l)))
    (he : ∃ e, fs.get? (name :: l) = some e ∧ ∀ t, e ≠ .link t) :
    fs'.walk true linkLimit start steps = .ok (.found (name :: l)) := by
  obtain ⟨ks, hk, hr⟩ := exists_route hw
  obtain ⟨e, he, hlink⟩ := he
  obtain ⟨mode, hmode⟩ := h.get?_landing
  refine walk_of_route (hr.transfer (fun x hx => ?_) (fun x hx => ?_) fun _ => ?_) hk
  · exact h.isDirAt ((grownBy_prepared fs p).isDirAt hx)
  · obtain ⟨t, ht⟩ := hr.link_of_mem hx
    have hne : x ≠ name :: l := by
      rintro rfl
      rw [he] at ht
      exact hlink t (Option.some.inj ht)
    rw [h.get?_other hne, ht]
    exact (grownBy_prepared fs p).kept ht
  · exact ⟨_, hmode, by simp⟩

/-- The case of a path that is resolved to the path without links of what it leads to. -/
theorem read_of_resolved {m : Location} (hc : checkBytes p = .ok ())
    (hw : fs.walk true linkLimit (startOf fs.cwd p) p.steps = .ok (.found m))
    (ht : fs.replaceTarget p = pathTo m) : name :: l = m ∧ fs.severs p = false ∧
      fs'.read p = if pathLimit ≤ p.bytes.length then .error .nameTooLong else .ok data := by
  obtain ⟨e, he, hlink⟩ := exists_entry_of_walk hc hw
  have hs : ((fs.prepared p).get? m).isSome = true := by
    simp [(grownBy_prepared fs p).kept he]
  obtain ⟨rfl, hlinks⟩ := findHolder_pathTo hs (ht ▸ h.holder) rfl
  refine ⟨rfl, ?_, ?_⟩
  · rw [(grownBy_prepared fs p).cwd] at hlinks
    rw [h.severs_eq, ht, hlinks]
    simp
  · obtain ⟨mode, hmode⟩ := h.get?_landing
    split
    · rename_i hlen
      unfold read find locate checkPath
      rw [hc]
      simp only [bind, Except.bind, if_pos hlen]
    · rename_i hlen
      refine read_eq_ok_iff.mpr ⟨_, mode, find_eq_ok_iff.mpr ⟨?_, ?_⟩, hmode⟩
      · exact checkPath_eq_ok_iff.mpr ⟨hc, Nat.not_le.mp hlen⟩
      · rw [h.cwd]
        exact h.walk_found hw ⟨e, he, hlink⟩

/-- The case of a path that stands for itself. -/
theorem read_of_unresolved (ht : fs.replaceTarget p = p) :
    p.bytes.length < pathLimit ∧
      fs'.read p = if fs.severs p = true then .error .notDirectory else .ok data := by
  have hholder := h.holder
  have hslash := h.endsInSlash
  have hsev := h.severs_eq
  rw [ht] at hholder hslash hsev
  obtain ⟨hc, hw, hd, hlast⟩ := findHolder_eq_ok hholder
  obtain ⟨ks, hk, hr⟩ := exists_route hw
  rw [(grownBy_prepared fs p).cwd] at hr
  rw [linksOn_route hr hk] at hsev
  obtain ⟨mode, hmode⟩ := h.get?_landing
  refine ⟨(checkPath_eq_ok_iff.mp hc).2, ?_⟩
  by_cases hmem : name :: l ∈ ks
  · rw [if_pos (by rw [hsev]; exact decide_eq_true hmem)]
    refine read_of_walk_error hc ?_
    rw [h.cwd, Path.steps_of_getLast? hlast.symm]
    exact walk_severed hr hd hmem hmode (fun y hy => h.isDirAt hy)
      (fun y _ hne => h.get?_other hne) hk _ _
  · rw [if_neg (by rw [hsev]; simp [hmem])]
    have hr' : Route fs' (startOf fs.cwd p) p.components.dropLast ks l := by
      refine hr.transfer (fun y hy => h.isDirAt hy) (fun y hy => h.get?_other ?_) fun hm => ?_
      · rintro rfl
        exact hmem hy
      · rw [hd] at hm
        cases hm
    rw [← h.cwd] at hr'
    exact read_of_holder hc hr' hk hlast.symm hslash h.length_le hmode

/-- **What a path reads as after a replacement of the file it names.** -/
theorem read_eq : fs'.read p =
    if pathLimit ≤ p.bytes.length then .error .nameTooLong
    else if fs.severs p = true then .error .notDirectory else .ok data := by
  rcases replaceTarget_cases fs p with ⟨m, hc, hw, -, ht⟩ | ht
  · obtain ⟨-, hsev, hread⟩ := h.read_of_resolved hc hw ht
    rw [hread, hsev]
    rfl
  · obtain ⟨hlen, hread⟩ := h.read_of_unresolved ht
    rw [hread, if_neg (Nat.not_le.mpr hlen)]

theorem read_ok_iff :
    fs'.read p = .ok data ↔ p.bytes.length < pathLimit ∧ fs.severs p = false := by
  rw [h.read_eq]
  split
  · rename_i hlen
    simp [Nat.not_lt.mpr hlen]
  split
  · rename_i hsev
    simp [hsev]
  · rename_i hlen hsev
    simpa [hsev] using hlen

end Replaced

/-! ## 4. Paths that led to a file -/

/-- A path that leads to a file leads to it in a grown tree, and reads as before. -/
theorem read_of_grownBy (h : GrownBy fs fs') (hr : fs.read p = .ok data) :
    fs'.read p = .ok data := by
  obtain ⟨l, mode, hf, he⟩ := read_eq_ok_iff.mp hr
  obtain ⟨hc, hw⟩ := find_eq_ok_iff.mp hf
  obtain ⟨ks, hk, hroute⟩ := exists_route hw
  have hroute' := h.route hroute ⟨_, he, by simp⟩
  refine read_eq_ok_iff.mpr ⟨l, mode, find_eq_ok_iff.mpr ⟨hc, ?_⟩, h.kept he⟩
  rw [h.cwd]
  exact walk_of_route hroute' hk

/-- A path that leads to something goes on to it, in a grown tree, from the directory that holds its
    last component. -/
theorem exists_last_route {name : Name} (hgrown : GrownBy fs fs')
    (hw : fs.walk true linkLimit (startOf fs.cwd p) p.steps = .ok (.found m))
    (hm : ∃ e, fs.get? m = some e ∧ ∀ t, e ≠ .link t)
    (hh : fs'.findHolder p = .ok (l, some (.down name))) :
    ∃ ks, Route fs' l (.down name :: if p.endsInSlash then [.here] else []) ks m := by
  obtain ⟨-, hwl, -, hlast⟩ := findHolder_eq_ok hh
  obtain ⟨ks, -, hr⟩ := exists_route hwl
  rw [hgrown.cwd] at hr
  obtain ⟨front, hfront⟩ := List.getLast?_eq_some_iff.mp hlast.symm
  rw [hfront, List.dropLast_concat] at hr
  -- the whole path, split where its last component is taken
  obtain ⟨ks₀, -, hroute⟩ := exists_route hw
  have hwhole := hgrown.route hroute hm
  unfold Path.steps at hwhole
  rw [hfront, List.append_assoc] at hwhole
  obtain ⟨ks₁, ks₂, c, -, h₁, h₂⟩ := hwhole.exists_split
  obtain rfl := h₁.unique hr
  exact ⟨ks₂, h₂⟩

/-- The last component of a path that leads to a file is no link that leads to a directory. -/
theorem not_dir_of_route_to_file {ks ks' : List Location} {d m : Location} {name : Name}
    {target : Path} {mode : Nat} {tail : List Step} (htail : tail = [] ∨ tail = [.here])
    (hlink : fs.get? (name :: l) = some (.link target))
    (hdir : Route fs (startOf l target) target.steps ks' d) (hd : fs.isDirAt d = true)
    (hfile : Route fs l (.down name :: tail) ks m) (hm : fs.get? m = some (.file mode data)) :
    False := by
  cases hfile with
  | entry _ _ he hne _ =>
    rw [hlink] at he
    exact hne target (Option.some.inj he).symm
  | link _ _ he hr =>
    rw [hlink] at he
    cases he
    obtain ⟨ks₁, ks₂, c, -, h₁, h₂⟩ := hr.exists_split
    obtain rfl := h₁.unique hdir
    have hmd : fs.isDirAt m = true := by
      rcases htail with rfl | rfl
      · cases h₂
        exact hd
      · cases h₂ with
        | here hl hr => cases hr; exact hl
    rw [not_isDirAt_of_file hm] at hmd
    cases hmd

/-- **A path that leads to a file is not severed** when the file is replaced. -/
theorem severs_eq_false_of_read (h : fs.read p = .ok data) : fs.severs p = false := by
  obtain ⟨m, mode, hf, he⟩ := read_eq_ok_iff.mp h
  obtain ⟨hc, hw⟩ := find_eq_ok_iff.mp hf
  have hgrown := grownBy_prepared fs p
  cases hsev : fs.severs p with
  | false => rfl
  | true =>
    exfalso
    unfold severs at hsev
    simp only at hsev
    split at hsev
    · rename_i l name hholder
      have hmem := of_decide_eq_true hsev
      rcases replaceTarget_cases fs p with ⟨m', hc', hw', -, ht⟩ | ht
      · obtain rfl : m = m' := by
          have := hw.symm.trans hw'
          cases this
          rfl
        have hs : ((fs.prepared p).get? m).isSome = true := by simp [hgrown.kept he]
        obtain ⟨-, hlinks⟩ := findHolder_pathTo hs (ht ▸ hholder) rfl
        rw [hgrown.cwd] at hlinks
        rw [ht, hlinks] at hmem
        cases hmem
      · rw [ht] at hholder hmem
        obtain ⟨-, hwd, hd, -⟩ := findHolder_eq_ok hholder
        obtain ⟨ks, hk, hr⟩ := exists_route hwd
        rw [hgrown.cwd] at hr
        rw [linksOn_route hr hk] at hmem
        obtain ⟨target, ks', d, hlink, hdir, hdd⟩ := hr.link_to_dir hd hmem
        obtain ⟨ks₂, h₂⟩ := exists_last_route hgrown hw ⟨_, he, by simp⟩ hholder
        refine not_dir_of_route_to_file ?_ hlink hdir hdd h₂ (hgrown.kept he)
        split
        · exact .inr rfl
        · exact .inl rfl
    · cases hsev

/-- **The file that is replaced is the one that was read**, if the path led to a file. -/
theorem Replaced.eq_of_read {name : Name} {mode : Nat} {old new : Bytes}
    (h : Replaced fs p new fs' l name) (hr : fs.read p = .ok data)
    (hfile : fs.get? (name :: l) = some (.file mode old)) : old = data := by
  obtain ⟨m, mode', hf, he⟩ := read_eq_ok_iff.mp hr
  obtain ⟨hc, hw⟩ := find_eq_ok_iff.mp hf
  have hgrown := grownBy_prepared fs p
  have hm : name :: l = m := by
    rcases replaceTarget_cases fs p with ⟨m', hc', hw', -, ht⟩ | ht
    · obtain rfl : m = m' := by
        have := hw.symm.trans hw'
        cases this
        rfl
      exact (h.read_of_resolved hc' hw' ht).1
    · have hholder := h.holder
      have hslash := h.endsInSlash
      rw [ht] at hholder hslash
      obtain ⟨ks, hlast⟩ := exists_last_route hgrown hw ⟨_, he, by simp⟩ hholder
      rw [hslash] at hlast
      cases hlast with
      | entry _ _ _ _ hend =>
        cases hend
        rfl
      | link _ _ hlink _ =>
        rw [hgrown.kept hfile] at hlink
        cases hlink
  rw [hm, he] at hfile
  cases hfile
  rfl

end DeviceKeys.FileSystem
