import DeviceKeys.Proofs.FileSystem.Landing

/-! # Links under a replacement

Where the last component of a path is a link, the contents belong where the link leads, and the link
stays (`WrittenThrough`). A replacement does so just when it knows where that is:

* `Resolved`: the path leads to a file, and nothing that is asked for on the way is too long, so
  that the path is resolved to it. Links then stay, whether in the last place or on the way, alone
  or in a chain.
* `EndsInLink`: otherwise the path stands for itself, and a link in its last place is what the new
  file takes the place of (`LinkLost`). All other links stay.

`Replaced.writtenThrough_iff` and `Replaced.linkLost` say so for every tree, path and contents.
-/

namespace DeviceKeys

open DeviceKeys.Path (Step Name)

/-- The location at which a walk ends, where the last name may still be missing. -/
def Target.place : Target → Location
  | .found l => l
  | .missing dir name => name :: dir

namespace FileSystem

variable {fs fs' : FileSystem} {l m x : Location} {p : Path} {data : Bytes} {name : Name}
  {n : Nat} {w : Target}

/-! ## 1. Where a path points to -/

/-- The location to which a path leads, all links followed. There may be nothing yet, if the
    directory that would hold it is there. -/
def PointsTo (fs : FileSystem) (p : Path) (x : Location) : Prop :=
  ∃ w, fs.walk true linkLimit (startOf fs.cwd p) p.steps = .ok w ∧ w.place = x

/-- The path is resolved to a file that it leads to. -/
def Resolved (fs : FileSystem) (p : Path) : Prop :=
  (∃ m, LeadsToFile fs p m) ∧ fs.Resolvable p

/-- The last component of a path names the link at a location, where the others lead once the
    missing directories have been made. -/
def EndsInLink (fs : FileSystem) (p : Path) (x : Location) : Prop :=
  ∃ d name target, x = name :: d ∧
    (fs.prepared p).findHolder p = .ok (d, some (.down name)) ∧ fs.get? x = some (.link target)

/-- **A walk that ends somewhere has taken a route up to each of its steps.** -/
theorem exists_route_to {front rest : List Step} {step : Step}
    (h : fs.walk true n l (front ++ step :: rest) = .ok w) : ∃ ks c, ks.length ≤ n ∧
      Route fs l front ks c ∧ fs.walk true (n - ks.length) c (step :: rest) = .ok w := by
  generalize hs : front ++ step :: rest = steps at h
  induction n, l, steps using walk_induction fs generalizing front with
  | nil n l => cases front <;> cases hs
  | notDirectory hl =>
    rw [walk_notDirectory hl] at h
    cases h
  | @here n l steps hl ih =>
    obtain ⟨rfl, hrest⟩ | ⟨front, rfl, rfl⟩ := List.append_eq_cons_iff.mp hs
    · exact ⟨[], l, Nat.zero_le n, .done l, hrest ▸ h⟩
    · rw [walk_here hl] at h
      obtain ⟨ks, c, hk, hr, hc⟩ := ih rfl h
      exact ⟨ks, c, hk, .here hl hr, hc⟩
  | @up n l steps hl ih =>
    obtain ⟨rfl, hrest⟩ | ⟨front, rfl, rfl⟩ := List.append_eq_cons_iff.mp hs
    · exact ⟨[], l, Nat.zero_le n, .done l, hrest ▸ h⟩
    · rw [walk_up hl] at h
      obtain ⟨ks, c, hk, hr, hc⟩ := ih rfl h
      exact ⟨ks, c, hk, .up hl hr, hc⟩
  | tooLong hl hn =>
    rw [walk_tooLong hl hn] at h
    cases h
  | @absent n l name steps hl hn he =>
    obtain ⟨rfl, hrest⟩ | ⟨front, rfl, rfl⟩ := List.append_eq_cons_iff.mp hs
    · exact ⟨[], l, Nat.zero_le n, .done l, hrest ▸ h⟩
    · rw [walk_absent hl hn he, if_neg (by simp)] at h
      cases h
  | @entry n l name steps e hl hn he hlink ih =>
    obtain ⟨rfl, hrest⟩ | ⟨front, rfl, rfl⟩ := List.append_eq_cons_iff.mp hs
    · exact ⟨[], l, Nat.zero_le n, .done l, hrest ▸ h⟩
    · rw [walk_entry hl hn he hlink] at h
      obtain ⟨ks, c, hk, hr, hc⟩ := ih rfl h
      exact ⟨ks, c, hk, .entry hl hn he hlink hr, hc⟩
  | @lastLink l name steps target hl hn he =>
    rw [walk_link hl hn he] at h
    cases h
  | @link n l name steps target hl hn he ih =>
    obtain ⟨rfl, hrest⟩ | ⟨front, rfl, rfl⟩ := List.append_eq_cons_iff.mp hs
    · exact ⟨[], l, Nat.zero_le _, .done l, hrest ▸ h⟩
    · rw [walk_link hl hn he, onward] at h
      obtain ⟨ks, c, hk, hr, hc⟩ := ih (List.append_assoc _ _ _) h
      exact ⟨_ :: ks, c, Nat.succ_le_succ hk, .link hl hn he hr, by
        rwa [List.length_cons, Nat.succ_sub_succ]⟩

/-- A name that is told to be missing is. -/
theorem get?_of_walk_missing {d : Location} {steps : List Step}
    (h : fs.walk true n l steps = .ok (.missing d name)) : fs.get? (name :: d) = none := by
  induction n, l, steps using walk_induction fs with
  | nil n l =>
    rw [walk_nil] at h
    cases h
  | notDirectory hl =>
    rw [walk_notDirectory hl] at h
    cases h
  | here hl ih =>
    rw [walk_here hl] at h
    exact ih h
  | up hl ih =>
    rw [walk_up hl] at h
    exact ih h
  | tooLong hl hn =>
    rw [walk_tooLong hl hn] at h
    cases h
  | absent hl hn he =>
    rw [walk_absent hl hn he] at h
    split at h
    · cases h
      exact he
    · cases h
  | entry hl hn he hlink ih =>
    rw [walk_entry hl hn he hlink] at h
    exact ih h
  | lastLink hl hn he =>
    rw [walk_link hl hn he] at h
    cases h
  | link hl hn he ih =>
    rw [walk_link hl hn he] at h
    exact ih h

/-! ## 2. What becomes of the links -/

/-- The contents stand where the path points to, and every link is as it was. -/
structure WrittenThrough (fs : FileSystem) (p : Path) (data : Bytes) (fs' : FileSystem) : Prop where
  links : ∀ {x : Location} {target : Path}, fs.get? x = some (.link target) →
    fs'.get? x = some (.link target)
  contents : ∀ {x : Location}, PointsTo fs p x → ∃ mode, fs'.get? x = some (.file mode data)
  /-- A link in the last place points to something. -/
  points : ∀ {x : Location}, EndsInLink fs p x → ∃ y, PointsTo fs p y

/-- The contents stand in the place of the link in the last place of the path. All other links are
    as they were, and where the path points to is no new file. -/
def LinkLost (fs : FileSystem) (p : Path) (data : Bytes) (fs' : FileSystem) : Prop :=
  ∃ x mode, EndsInLink fs p x ∧ fs'.get? x = some (.file mode data) ∧
    (∀ y target, y ≠ x → fs.get? y = some (.link target) → fs'.get? y = some (.link target)) ∧
    ∀ y, PointsTo fs p y → y ≠ x ∧
      ∀ e, fs'.get? y = some e → fs.get? y = some e ∨ e.isDir = true

namespace Replaced

variable (h : Replaced fs p data fs' l name)
include h

/-- What stood beside the new file stands there as it was. -/
theorem get?_kept {e : Entry} (hx : x ≠ name :: l) (he : fs.get? x = some e) :
    fs'.get? x = some e :=
  (h.get?_other hx).trans ((grownBy_prepared fs p).kept he)

/-- A new file in the place of no link leaves every link. -/
theorem links_of_ne (hne : ∀ target, fs.get? (name :: l) ≠ some (.link target)) {target : Path}
    (hx : fs.get? x = some (.link target)) : fs'.get? x = some (.link target) :=
  h.get?_kept (fun heq => hne target (heq ▸ hx)) hx

/-- A path that stands for itself, and does not end in a link, points to its last component. -/
theorem place_eq (ht : fs.replaceTarget p = p)
    (hne : ∀ target, fs.get? (name :: l) ≠ some (.link target))
    (hw : fs.walk true linkLimit (startOf fs.cwd p) p.steps = .ok w) : w.place = name :: l := by
  have hgrown := grownBy_prepared fs p
  have hslash := h.endsInSlash
  rw [ht] at hslash
  obtain ⟨-, hwl, hl, hlast⟩ := findHolder_eq_ok (h.findHolder_eq ht)
  rw [Path.steps_of_getLast? hlast.symm, hslash] at hw
  obtain ⟨ks, c, -, hr, hc⟩ := exists_route_to hw
  -- the directory that the walk comes to is the one that holds the last component
  have hcd : fs.isDirAt c = true := by
    cases hd : fs.isDirAt c with
    | true => rfl
    | false =>
      rw [walk_notDirectory hd] at hc
      cases hc
  obtain ⟨mode, hmode⟩ := exists_dir hcd
  obtain ⟨ks', -, hr'⟩ := exists_route hwl
  rw [hgrown.cwd] at hr'
  obtain rfl := (hgrown.route hr ⟨_, hmode, by simp⟩).unique hr'
  cases he : fs.get? (name :: c) with
  | none =>
    rw [if_neg Bool.false_ne_true, walk_absent hcd h.length_le he] at hc
    cases hc
    rfl
  | some e =>
    rw [if_neg Bool.false_ne_true,
      walk_entry hcd h.length_le he fun target heq => hne target (heq ▸ he), walk_nil] at hc
    cases hc
    rfl

/-- A path that is resolved has the new contents at the file it leads to. -/
theorem writtenThrough_of_target (hc : checkBytes p = .ok ())
    (hw : fs.walk true linkLimit (startOf fs.cwd p) p.steps = .ok (.found m))
    (ht : fs.replaceTarget p = pathTo m) : WrittenThrough fs p data fs' := by
  obtain ⟨rfl, -, -⟩ := h.read_of_resolved hc hw ht
  obtain ⟨e, he, hlink⟩ := exists_entry_of_walk hc hw
  refine ⟨h.links_of_ne fun target heq => ?_, ?_, fun _ => ⟨_, _, hw, rfl⟩⟩
  · exact hlink target (Option.some.inj (he.symm.trans heq))
  · rintro x ⟨w, hw', rfl⟩
    cases hw.symm.trans hw'
    exact h.get?_landing

/-- So has a path in whose last place there is no link. -/
theorem writtenThrough_of_name (hno : ∀ x, ¬ EndsInLink fs p x) :
    WrittenThrough fs p data fs' := by
  rcases replaceTarget_cases fs p with ⟨m, hc, hw, -, ht⟩ | ht
  · exact h.writtenThrough_of_target hc hw ht
  have hne : ∀ target, fs.get? (name :: l) ≠ some (.link target) := fun target hlink =>
    hno _ ⟨l, name, target, rfl, h.findHolder_eq ht, hlink⟩
  refine ⟨h.links_of_ne hne, ?_, fun hx => absurd hx (hno _)⟩
  rintro x ⟨w, hw, rfl⟩
  rw [h.place_eq ht hne hw]
  exact h.get?_landing

/-- **A link in the last place of a path that is not resolved is lost.** -/
theorem linkLost (hnot : ¬ Resolved fs p) (hx : EndsInLink fs p x) :
    LinkLost fs p data fs' := by
  have ht : fs.replaceTarget p = p := h.target_eq fun m hm hres => hnot ⟨⟨m, hm⟩, hres⟩
  have hend := hx
  obtain ⟨d, name', target, rfl, hholder, hlink⟩ := hx
  cases (h.findHolder_eq ht).symm.trans hholder
  obtain ⟨mode, hfile⟩ := h.get?_landing
  obtain ⟨hc, -, -, -⟩ := findHolder_eq_ok hholder
  refine ⟨_, mode, hend, hfile, fun y t hy => h.get?_kept hy, ?_⟩
  rintro y ⟨w, hw, rfl⟩
  cases w with
  | found m =>
    obtain ⟨e, he, hne⟩ := exists_entry_of_walk (checkPath_eq_ok_iff.mp hc).1 hw
    have hm : m ≠ name :: l := fun heq => hne target (Option.some.inj (he.symm.trans (heq ▸ hlink)))
    refine ⟨hm, fun e' he' => .inl ?_⟩
    rwa [show (Target.found m).place = m from rfl, h.get?_kept hm he, ← he] at he'
  | missing d' name' =>
    have hnone := get?_of_walk_missing hw
    have hm : name' :: d' ≠ name :: l := fun heq => by
      rw [heq, hlink] at hnone
      cases hnone
    refine ⟨hm, fun e he => .inr ?_⟩
    exact (grownBy_prepared fs p).isDir_new hnone ((h.get?_other hm).symm.trans he)

/-- **Contents are written through the links of a path just when the path is resolved to a file, or
    does not end in a link.** -/
theorem writtenThrough_iff :
    WrittenThrough fs p data fs' ↔ Resolved fs p ∨ ∀ x, ¬ EndsInLink fs p x := by
  constructor
  · intro hthrough
    by_cases hres : Resolved fs p
    · exact .inl hres
    · refine .inr fun x hx => ?_
      obtain ⟨y, mode, ⟨d, name, target, -, -, hy⟩, hfile, -⟩ := h.linkLost hres hx
      cases (hthrough.links hy).symm.trans hfile
  · rintro (⟨⟨m, hc, hw, -⟩, hres⟩ | hno)
    · refine h.writtenThrough_of_target hc hw ?_
      rw [replaceTarget_of_walk hc hw, if_pos hres]
    · exact h.writtenThrough_of_name hno

end Replaced

end FileSystem

end DeviceKeys
