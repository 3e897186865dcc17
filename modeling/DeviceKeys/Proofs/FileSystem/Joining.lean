import DeviceKeys.Proofs.FileSystem.Reading

/-! # A name in a directory

The path of a directory with a name joined to it leads to what has the name in the directory, unless
it is too long to be looked at (`locate_join`):

* to nothing, if nothing has the name (`exists?_join_of_none`);
* to what has it, if that is no link (`find_join_of_entry`).

The path without links of a directory, with the name of an entry joined to it, is the path without
links of the entry (`join_pathTo`), and it is the parent of that (`parent?_pathTo`). Nothing on it
is a link, so that it leads to what the name leads to in the directory (`locate_pathTo`).
-/

namespace DeviceKeys

namespace Path

variable {base : Path} {names : List Name} {name : Name}

/-! ## 1. The path of some names -/

theorem isIdle_of_isName (h : IsName name) : isIdle name = false := by
  simp [isIdle, h.1, h.2.1]

theorem isAbsolute_ofNames (names : List Name) : (ofNames names).isAbsolute = true := rfl

theorem anchor_ofNames (names : List Name) : (ofNames names).anchor = [slash] := by
  unfold anchor
  rw [if_pos (isAbsolute_ofNames names)]

/-- **The parent of the path of some names** is the path of all but the last. -/
theorem parent?_ofNames (h : ∀ n ∈ names, IsName n) (hn : IsName name) :
    (ofNames (names ++ [name])).parent? = some (ofNames names) := by
  have hparts : splitSlash ((ofNames (names ++ [name])).bytes.drop 1) = names ++ [name] := by
    refine splitSlash_joinSlash (by simp) fun part hpart => ?_
    rcases List.mem_append.mp hpart with hpart | hpart
    · exact (h part hpart).2.2.2
    · rw [List.mem_singleton.mp hpart]
      exact hn.2.2.2
  have hnames : names.reverse.dropWhile isIdle = names.reverse := by
    cases hr : names.reverse with
    | nil => rfl
    | cons n rest =>
      have hmem : n ∈ names := List.mem_reverse.mp (hr ▸ List.mem_cons_self)
      rw [List.dropWhile_cons_of_neg (by simp [isIdle_of_isName (h n hmem)])]
  unfold parent?
  rw [anchor_ofNames, List.length_singleton, hparts, List.reverse_append, List.reverse_singleton,
    List.singleton_append, List.dropWhile_cons_of_neg (by simp [isIdle_of_isName hn])]
  simp only [hnames, List.reverse_reverse]
  rfl

/-- A name joined to the path of some names. -/
theorem join_ofNames (h : ∀ n ∈ names, IsName n) (hn : IsName name) :
    (ofNames names).join ⟨name⟩ = ofNames (names ++ [name]) := by
  have hrel : isAbsolute ⟨name⟩ = false := isAbsolute_of_isName hn
  rcases List.eq_nil_or_concat names with rfl | ⟨front, last, rfl⟩
  · unfold join
    rw [if_neg (by simp [hrel]), if_pos (.inr rfl)]
    rfl
  · have hlast : IsName last := h last (by simp)
    have hends : (ofNames (front ++ [last])).endsInSlash = false := by
      unfold ofNames
      rcases List.eq_nil_or_concat front with rfl | ⟨_, _, rfl⟩
      · exact endsInSlash_of_isName hlast []
      · rw [joinSlash_append (by simp) (by simp), ← List.cons_append]
        exact endsInSlash_of_isName hlast _
    unfold join
    rw [List.concat_eq_append, if_neg (by simp [hrel]), hends, if_neg (by simp [ofNames])]
    have hjoin : joinSlash (front ++ [last] ++ [name]) =
        joinSlash (front ++ [last]) ++ slash :: name := joinSlash_append (by simp) (by simp)
    unfold ofNames
    rw [hjoin]
    rfl

end Path

namespace FileSystem

open DeviceKeys.Path (Step Name IsName)

variable {fs : FileSystem} {p : Path} {l : Location} {name : Name}

/-! ## 2. The path without links -/

theorem parent?_pathTo (h : ∀ n ∈ name :: l, IsName n) :
    (pathTo (name :: l)).parent? = some (pathTo l) := by
  obtain ⟨hname, hl⟩ := List.forall_mem_cons.mp h
  unfold pathTo
  rw [List.reverse_cons]
  exact Path.parent?_ofNames (fun n hn => hl n (List.mem_reverse.mp hn)) hname

theorem join_pathTo (h : ∀ n ∈ name :: l, IsName n) :
    (pathTo l).join ⟨name⟩ = pathTo (name :: l) := by
  obtain ⟨hname, hl⟩ := List.forall_mem_cons.mp h
  unfold pathTo
  rw [List.reverse_cons]
  exact Path.join_ofNames (fun n hn => hl n (List.mem_reverse.mp hn)) hname

/-! ## 3. What a name in a directory leads to -/

theorem bytes_ne_nil_of_find (h : fs.find p = .ok l) : p.bytes ≠ [] := by
  intro hnil
  obtain ⟨hc, -⟩ := find_eq_ok_iff.mp h
  have hb := (checkPath_eq_ok_iff.mp hc).1
  unfold checkBytes at hb
  simp [hnil] at hb

theorem checkBytes_join (h : checkBytes p = .ok ()) (hn : IsName name) (hz : 0 ∉ name) :
    checkBytes (p.join ⟨name⟩) = .ok () := by
  obtain ⟨hzero, hne⟩ := checkBytes_eq_ok_iff.mp h
  obtain ⟨front, hjoin, hbase⟩ := Path.join_name hn hne
  have hfront : 0 ∉ front := by
    rcases hbase with hbase | hbase <;> rw [hbase] at hzero <;> simp_all
  rw [checkBytes_eq_ok_iff, hjoin]
  simp [hfront, hz, Path.slash]

/-- The components of a path to a directory are a route to it. -/
theorem exists_route_of_find (h : fs.find p = .ok l) :
    ∃ ks, ks.length ≤ linkLimit ∧ Route fs (startOf fs.cwd p) p.components ks l := by
  obtain ⟨-, hw⟩ := find_eq_ok_iff.mp h
  obtain ⟨ks, hk, hr⟩ := exists_route hw
  obtain ⟨ks₁, ks₂, c, rfl, h₁, h₂⟩ := Route.exists_split hr
  have hc : ks₂ = [] ∧ c = l := by
    split at h₂
    · cases h₂ with
      | here _ h₂ =>
        cases h₂
        exact ⟨rfl, rfl⟩
    · cases h₂
      exact ⟨rfl, rfl⟩
  obtain ⟨rfl, rfl⟩ := hc
  exact ⟨ks₁, by simpa using hk, h₁⟩

/-- **A name in a directory** is looked up where the path of the directory leads. -/
theorem locate_join (h : fs.find p = .ok l) (hn : IsName name) (hz : 0 ∉ name) :
    ∃ n, fs.locate true (p.join ⟨name⟩) =
      if pathLimit ≤ (p.join ⟨name⟩).bytes.length then .error .nameTooLong
      else fs.walk true n l [.down name] := by
  obtain ⟨ks, hk, hr⟩ := exists_route_of_find h
  obtain ⟨hc, -⟩ := find_eq_ok_iff.mp h
  have hne := bytes_ne_nil_of_find h
  have hstart : startOf fs.cwd (p.join ⟨name⟩) = startOf fs.cwd p := by
    unfold startOf
    rw [Path.isAbsolute_join_name hn hne]
  refine ⟨linkLimit - ks.length, ?_⟩
  unfold locate checkPath
  rw [checkBytes_join (checkPath_eq_ok_iff.mp hc).1 hn hz, Path.steps_join hn hne, hstart,
    walk_route hr hk]
  by_cases hlong : pathLimit ≤ (p.join ⟨name⟩).bytes.length
  · simp only [bind, Except.bind, hlong, if_true]
  · simp only [bind, Except.bind, hlong, if_false]

theorem checkBytes_pathTo : ∀ {l : Location}, (∀ n ∈ l, IsName n ∧ 0 ∉ n) →
    checkBytes (pathTo l) = .ok ()
  | [], _ => rfl
  | name :: l, h => by
    obtain ⟨⟨hn, hz⟩, hl⟩ := List.forall_mem_cons.mp h
    rw [← join_pathTo fun n hmem => (h n hmem).1]
    exact checkBytes_join (checkBytes_pathTo hl) hn hz

/-- **The path without links of a name in a directory** is looked up there, if it is not too
    long. -/
theorem locate_pathTo (hl : fs.isDirAt l = true) (hn : IsNamed (name :: l)) :
    fs.locate true (pathTo (name :: l)) =
      if pathLimit ≤ (pathTo (name :: l)).bytes.length then .error .nameTooLong
      else fs.walk true linkLimit l [.down name] := by
  have hsome := get?_isSome_of_isDirAt hl
  obtain ⟨hname, -, hz⟩ := isNamed_cons.mp hn
  have hnames : ∀ n ∈ name :: l, IsName n ∧ 0 ∉ n := List.forall_mem_cons.mpr
    ⟨⟨hname, hz⟩, fun n hmem => ⟨(named_of_mem hsome n hmem).1, (named_of_mem hsome n hmem).2.2⟩⟩
  have hne : (pathTo l).bytes ≠ [] := by simp [pathTo, Path.ofNames]
  have hsteps : (pathTo (name :: l)).steps = l.reverse.map .down ++ [.down name] := by
    rw [← join_pathTo fun n hmem => (hnames n hmem).1, Path.steps_join hname hne,
      components_pathTo hsome]
  have hroute : Route fs [] (l.reverse.map .down) [] (l.reverse.reverse ++ []) :=
    Route.along_names (by simpa using hl)
  rw [List.append_nil, List.reverse_reverse] at hroute
  have hwalk := walk_route hroute (Nat.zero_le linkLimit) [.down name]
  have hstart : startOf fs.cwd (pathTo (name :: l)) = [] := if_pos rfl
  unfold locate checkPath
  rw [checkBytes_pathTo hnames, hsteps, hstart, hwalk]
  by_cases hlong : pathLimit ≤ (pathTo (name :: l)).bytes.length
  · simp only [bind, Except.bind, hlong, if_true]
  · simp only [bind, Except.bind, hlong, if_false]
    rfl

theorem find_pathTo_of_none (hl : fs.isDirAt l = true) (hn : IsNamed (name :: l))
    (hnone : fs.get? (name :: l) = none) : fs.find (pathTo (name :: l)) =
      .error (if pathLimit ≤ (pathTo (name :: l)).bytes.length then .nameTooLong
        else .noEntry) := by
  unfold find
  rw [locate_pathTo hl hn]
  split
  · rfl
  · rw [walk_absent hl (isNamed_cons.mp hn).2.1 hnone]
    rfl

theorem find_pathTo_of_isDirAt (hd : fs.isDirAt l = true)
    (hshort : (pathTo l).bytes.length < pathLimit) : fs.find (pathTo l) = .ok l := by
  cases l with
  | nil => exact find_eq_ok_iff.mpr ⟨rfl, (walk_here (isDirAt_top fs)).trans walk_nil⟩
  | cons name l =>
    have hsome := get?_isSome_of_isDirAt hd
    have hl : fs.isDirAt l = true := isDirAt_tail hsome
    have hnamed := fs.named _ hsome
    obtain ⟨mode, hmode⟩ := exists_dir hd
    unfold find
    rw [locate_pathTo hl hnamed, if_neg (Nat.not_le.mpr hshort),
      walk_entry hl (isNamed_cons.mp hnamed).2.1 hmode (by simp), walk_nil]
    rfl

/-- A path names something just when it leads somewhere. -/
theorem exists?_iff : fs.exists? p = true ↔ ∃ m, fs.find p = .ok m := by
  unfold exists? stat?
  constructor
  · intro h
    split at h
    · rename_i m hm
      exact ⟨m, hm⟩
    · cases h
  · rintro ⟨m, hm⟩
    obtain ⟨hc, hw⟩ := find_eq_ok_iff.mp hm
    obtain ⟨e, he, -⟩ := exists_entry_of_walk (checkPath_eq_ok_iff.mp hc).1 hw
    simp [hm, he]

variable (h : fs.find p = .ok l) (hn : IsName name) (hz : 0 ∉ name)
include h hn hz

theorem exists?_join_of_tooLong (hlong : pathLimit ≤ (p.join ⟨name⟩).bytes.length) :
    fs.exists? (p.join ⟨name⟩) = false := by
  obtain ⟨n, hlocate⟩ := locate_join h hn hz
  unfold exists? stat? find
  rw [hlocate, if_pos hlong]
  rfl

theorem exists?_join_of_none (hl : fs.isDirAt l = true) (hlen : name.length ≤ nameLimit)
    (hnone : fs.get? (name :: l) = none) : fs.exists? (p.join ⟨name⟩) = false := by
  by_cases hlong : pathLimit ≤ (p.join ⟨name⟩).bytes.length
  · exact exists?_join_of_tooLong h hn hz hlong
  · obtain ⟨n, hlocate⟩ := locate_join h hn hz
    unfold exists? stat? find
    rw [hlocate, if_neg hlong, walk_absent hl hlen hnone]
    rfl

/-- A name that something has which is no link leads to that. -/
theorem find_join_of_entry {e : Entry} (hl : fs.isDirAt l = true) (hlen : name.length ≤ nameLimit)
    (he : fs.get? (name :: l) = some e) (hlink : ∀ t, e ≠ .link t)
    (hshort : (p.join ⟨name⟩).bytes.length < pathLimit) :
    fs.find (p.join ⟨name⟩) = .ok (name :: l) := by
  obtain ⟨n, hlocate⟩ := locate_join h hn hz
  unfold find
  rw [hlocate, if_neg (Nat.not_le.mpr hshort), walk_entry hl hlen he hlink, walk_nil]
  rfl

end FileSystem

end DeviceKeys
