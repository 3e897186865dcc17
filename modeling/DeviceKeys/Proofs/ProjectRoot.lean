import DeviceKeys.ProjectRoot
import DeviceKeys.Proofs.Ancestors
import DeviceKeys.Proofs.Environment

/-! # The top of a workspace

The ancestors of the path of a directory are the paths of the directories that hold it
(`FileSystem.exists_ancestorsUpTo`), so the nearest one in which the marker of a workspace can be
seen is found from every directory in or below it (`SeenFrom.projectRoot_eq`). The marker is looked
at by its path, so it is not seen where that is too long (`Seen`).

From any path at all, however it is spelled, the longest of its lexical ancestors that holds the
marker is found (`NearestTop`), and the project root is that, unless it is given or named by a
variable (`RootFor`, `root_from_nearest_top`).
-/

namespace DeviceKeys

/-! ## 1. The ancestors of the path of a directory -/

namespace FileSystem

open DeviceKeys.Path (IsName)

theorem length_le_length_pathTo (l : Location) : l.length ≤ (pathTo l).bytes.length := by
  have hlen := Path.length_le_length_joinSlash l.reverse
  rw [List.length_reverse] at hlen
  exact hlen

/-- The path without links spells each name with a slash in front. -/
theorem bytes_pathTo {l : Location} (hl : l ≠ []) :
    (pathTo l).bytes = l.reverse.flatMap (Path.slash :: ·) :=
  Path.cons_joinSlash (List.reverse_ne_nil_iff.mpr hl)

theorem length_pathTo_cons {l : Location} (hl : l ≠ []) (name : Path.Name) :
    (pathTo (name :: l)).bytes.length = name.length + 1 + (pathTo l).bytes.length := by
  rw [bytes_pathTo hl, bytes_pathTo (List.cons_ne_nil _ _), List.reverse_cons,
    List.flatMap_append, List.length_append, Nat.add_comm]
  simp

/-- Among the ancestors of the path of a directory below `r`, the path of `r` comes behind those of
    the directories on the way. -/
theorem exists_ancestorsUpTo {r : Location} : ∀ {below : Location} {n : Nat},
    (∀ name ∈ below ++ r, IsName name) → below.length ≤ n → ∃ front back,
      (pathTo (below ++ r)).ancestorsUpTo n = front ++ pathTo r :: back ∧
        ∀ q ∈ front, ∃ l, q = pathTo l ∧ r <:+ l ∧ l ≠ r ∧ l <:+ below ++ r
  | [], n, _, _ => by
    refine ⟨[], ?_⟩
    cases n with
    | zero => exact ⟨[], rfl, by simp⟩
    | succ n =>
      cases hparent : (pathTo r).parent? with
      | none => exact ⟨[], by simp [Path.ancestorsUpTo, hparent], by simp⟩
      | some q => exact ⟨q.ancestorsUpTo n, by simp [Path.ancestorsUpTo, hparent], by simp⟩
  | name :: below, n + 1, h, hn => by
    have hbelow : ∀ k ∈ below ++ r, IsName k := (List.forall_mem_cons.mp h).2
    obtain ⟨front, back, hsplit, hfront⟩ :=
      exists_ancestorsUpTo hbelow (Nat.le_of_succ_le_succ hn)
    have hparent : (pathTo (name :: (below ++ r))).parent? = some (pathTo (below ++ r)) :=
      parent?_pathTo h
    refine ⟨pathTo (name :: below ++ r) :: front, back, ?_, fun q hq => ?_⟩
    · rw [List.cons_append, Path.ancestorsUpTo, hparent]
      simp only [hsplit, List.cons_append]
    · rcases List.mem_cons.mp hq with rfl | hq
      · refine ⟨_, rfl, List.suffix_append _ _, fun he => ?_, List.suffix_rfl⟩
        have hlen := congrArg List.length he
        simp only [List.cons_append, List.length_cons, List.length_append] at hlen
        omega
      · obtain ⟨l, rfl, hr, hne, hl⟩ := hfront q hq
        exact ⟨l, rfl, hr, hne, hl.trans (List.suffix_cons name _)⟩

/-- All ancestors of the path of a directory are paths of directories on the way to it. -/
theorem exists_of_mem_ancestorsUpTo {q : Path} : ∀ {l : Location} {n : Nat},
    (∀ name ∈ l, IsName name) → q ∈ (pathTo l).ancestorsUpTo n → ∃ l', q = pathTo l' ∧ l' <:+ l
  | l, 0, _, hq => ⟨l, List.mem_singleton.mp hq, List.suffix_rfl⟩
  | [], n + 1, _, hq => ⟨[], List.mem_singleton.mp hq, List.suffix_rfl⟩
  | name :: l, n + 1, h, hq => by
    have hl : ∀ k ∈ l, IsName k := (List.forall_mem_cons.mp h).2
    rw [Path.ancestorsUpTo, parent?_pathTo h] at hq
    rcases List.mem_cons.mp hq with rfl | hq
    · exact ⟨_, rfl, List.suffix_rfl⟩
    · obtain ⟨l', hq, hl'⟩ := exists_of_mem_ancestorsUpTo hl hq
      exact ⟨l', hq, hl'.trans (List.suffix_cons name l)⟩

end FileSystem

/-! ## 2. The nearest workspace -/

open FileSystem (pathTo linkLimit pathLimit startOf)

/-- The name of the directory that marks the top of a workspace. -/
def markerName : Path.Name := workspaceMarker.bytes

/-- A directory contains the marker of a workspace: its name stands there for a directory, or for a
    link that leads to one. -/
inductive Marked (fs : FileSystem) (l : Location) : Prop
  | dir {mode : Nat} (stands : fs.get? (markerName :: l) = some (.dir mode))
  | link {target : Path} {m : Location} (stands : fs.get? (markerName :: l) = some (.link target))
      (leads : fs.walk true (linkLimit - 1) (startOf l target) target.steps = .ok (.found m))
      (isDir : fs.isDirAt m = true)

/-- The marker in a directory can be seen: it is there, and its path is not too long to be looked
    at. -/
structure Seen (fs : FileSystem) (l : Location) : Prop where
  short : (pathTo (markerName :: l)).bytes.length < pathLimit
  marked : Marked fs l

/-- Of the directories on the way to a directory, and that itself, the nearest one in which the
    marker can be seen. -/
structure SeenFrom (fs : FileSystem) (d top : Location) : Prop where
  isDir : fs.isDirAt d = true
  below : top <:+ d
  seen : Seen fs top
  unseen : ∀ l, top <:+ l → l ≠ top → l <:+ d → ¬Seen fs l

/-- The directory `d` is in or below a directory `r` that contains the marker of a workspace, and no
    directory on the way from `r` down to `d` contains another. -/
structure NearestWorkspace (fs : FileSystem) (r d : Location) : Prop where
  isDir : fs.isDirAt d = true
  below : r <:+ d
  marked : Marked fs r
  unmarked : ∀ l, r <:+ l → l ≠ r → l <:+ d → ¬Marked fs l

section

variable {fs : FileSystem} {l : Location}

theorem isNamed_markerName (l : Location) : IsNamed (markerName :: l) :=
  isNamed_cons.mpr (by decide)

theorem walk_marker_iff (hl : fs.isDirAt l = true) :
    (∃ m, fs.walk true linkLimit l [.down markerName] = .ok (.found m) ∧ fs.isDirAt m = true) ↔
      Marked fs l := by
  have hlen : markerName.length ≤ nameLimit := by decide
  cases he : fs.get? (markerName :: l) with
  | none =>
    rw [FileSystem.walk_absent hl hlen he]
    constructor
    · rintro ⟨m, hm, -⟩
      cases hm
    · rintro (hs | hs) <;> cases he.symm.trans hs
  | some e =>
    cases e with
    | file mode data =>
      rw [FileSystem.walk_entry hl hlen he (by simp), FileSystem.walk_nil]
      constructor
      · rintro ⟨m, hm, hd⟩
        cases hm
        obtain ⟨mode', hdir⟩ := FileSystem.exists_dir hd
        cases he.symm.trans hdir
      · rintro (hs | hs) <;> cases he.symm.trans hs
    | dir mode =>
      rw [FileSystem.walk_entry hl hlen he (by simp), FileSystem.walk_nil]
      exact ⟨fun _ => .dir he, fun _ => ⟨_, rfl, FileSystem.isDirAt_of_get? he⟩⟩
    | link target =>
      have honward : FileSystem.onward fs true linkLimit l target [] =
          fs.walk true (linkLimit - 1) (startOf l target) (target.steps ++ []) := rfl
      rw [FileSystem.walk_link hl hlen he, honward, List.append_nil]
      constructor
      · rintro ⟨m, hm, hd⟩
        exact .link he hm hd
      · rintro (hs | ⟨hs, hm, hd⟩)
        · cases he.symm.trans hs
        · cases he.symm.trans hs
          exact ⟨_, hm, hd⟩

/-- The path of the marker in a directory leads to a directory just when the marker can be seen. -/
theorem isWorkspace_pathTo_iff (hl : fs.isDirAt l = true) :
    isWorkspace fs (pathTo l) = true ↔ Seen fs l := by
  have hseen : Seen fs l ↔ (pathTo (markerName :: l)).bytes.length < pathLimit ∧ Marked fs l :=
    ⟨fun h => ⟨h.short, h.marked⟩, fun h => ⟨h.1, h.2⟩⟩
  have hnamed := isNamed_markerName l
  have hjoin : (pathTo l).join workspaceMarker = pathTo (markerName :: l) :=
    FileSystem.join_pathTo (List.forall_mem_cons.mpr ⟨(isNamed_cons.mp hnamed).1,
      FileSystem.isName_of_mem (FileSystem.get?_isSome_of_isDirAt hl)⟩)
  have hlocate := FileSystem.locate_pathTo hl hnamed
  unfold isWorkspace FileSystem.isDir FileSystem.stat? FileSystem.find
  rw [hjoin, hlocate, hseen, ← walk_marker_iff hl]
  by_cases hlong : pathLimit ≤ (pathTo (markerName :: l)).bytes.length
  · rw [if_pos hlong]
    simp [bind, Except.bind, Nat.not_lt.mpr hlong]
  · rw [if_neg hlong]
    rcases fs.walk true linkLimit l [.down markerName] with e | ⟨m⟩ | ⟨d, name⟩
    · simp [bind, Except.bind]
    · simp [bind, Except.bind, Nat.not_le.mp hlong, FileSystem.isDirAt]
    · simp [bind, Except.bind]

/-- If the marker can be seen on the way to a directory, there is a nearest one. -/
theorem exists_seenFrom : ∀ {d t : Location}, fs.isDirAt d = true → t <:+ d → Seen fs t →
    ∃ top, SeenFrom fs d top
  | [], t, hd, ht, hseen => by
    obtain rfl := List.suffix_nil.mp ht
    exact ⟨[], hd, List.suffix_rfl, hseen, fun l _ hne hl => absurd (List.suffix_nil.mp hl) hne⟩
  | name :: d, t, hd, ht, hseen => by
    by_cases hself : Seen fs (name :: d)
    · refine ⟨name :: d, hd, List.suffix_rfl, hself, fun l htop hne hl => ?_⟩
      exact absurd (hl.eq_of_length (Nat.le_antisymm hl.length_le htop.length_le)) hne
    · have htail : t <:+ d := (List.suffix_cons_iff.mp ht).resolve_left fun he => hself (he ▸ hseen)
      have hd' : fs.isDirAt d = true := FileSystem.isDirAt_tail
        (FileSystem.get?_isSome_of_isDirAt hd)
      obtain ⟨top, htop⟩ := exists_seenFrom hd' htail hseen
      refine ⟨top, hd, htop.below.trans (List.suffix_cons name d), htop.seen, ?_⟩
      intro l hl hne hld
      rcases List.suffix_cons_iff.mp hld with rfl | hld
      · exact hself
      · exact htop.unseen l hl hne hld

theorem NearestWorkspace.isDirAt_top {r d : Location} (h : NearestWorkspace fs r d) :
    fs.isDirAt r = true := by
  obtain ⟨below, rfl⟩ := h.below
  exact FileSystem.isDirAt_append h.isDir

/-- In a workspace all directories see the same marker: that of its top, or else the one that is
    seen from its top. -/
theorem NearestWorkspace.seenFrom {r d top : Location} (h : NearestWorkspace fs r d)
    (htop : SeenFrom fs r top) : SeenFrom fs d top where
  isDir := h.isDir
  below := htop.below.trans h.below
  seen := htop.seen
  unseen := by
    intro l hl hne hld hseen
    rcases List.suffix_or_suffix_of_suffix hld h.below with hlr | hrl
    · exact htop.unseen l hl hne hlr hseen
    · by_cases hlr : l = r
      · exact htop.unseen l hl hne (hlr ▸ List.suffix_rfl) hseen
      · exact h.unmarked l hrl hlr hld hseen.marked

variable {env : Environment} {d top : Location}

theorem SeenFrom.isDirAt (h : SeenFrom fs d top) {l : Location} (hl : l <:+ d) :
    fs.isDirAt l = true := by
  obtain ⟨below, rfl⟩ := hl
  exact FileSystem.isDirAt_append h.isDir

theorem SeenFrom.findWorkspaceRoot_eq (h : SeenFrom fs d top) :
    findWorkspaceRoot fs (pathTo d) = some (pathTo top) := by
  have hisDir {l : Location} (hl : l <:+ d) := h.isDirAt hl
  have hnames := FileSystem.isName_of_mem (FileSystem.get?_isSome_of_isDirAt h.isDir)
  obtain ⟨below, rfl⟩ := h.below
  have hfuel : below.length ≤ (pathTo (below ++ top)).bytes.length + 1 := by
    have hlen := FileSystem.length_le_length_pathTo (below ++ top)
    rw [List.length_append] at hlen
    omega
  obtain ⟨front, back, hsplit, hfront⟩ := FileSystem.exists_ancestorsUpTo hnames hfuel
  unfold findWorkspaceRoot Path.ancestors
  refine List.find?_eq_some_iff_append.mpr ⟨?_, front, back, hsplit, fun q hq => ?_⟩
  · exact (isWorkspace_pathTo_iff (hisDir h.below)).mpr h.seen
  · obtain ⟨l, rfl, hr, hne, hl⟩ := hfront q hq
    have hnot := mt (isWorkspace_pathTo_iff (hisDir hl)).mp (h.unseen l hr hne hl)
    simpa using hnot

/-- **The root that is found from a directory is the nearest one in which the marker can be seen**,
    however deep the directory lies below it. -/
theorem SeenFrom.projectRoot_eq (h : SeenFrom fs d top)
    (henv : env.path? Environment.projectRoot = none) :
    projectRoot fs none env (pathTo d) = pathTo top := by
  unfold projectRoot
  rw [henv, h.findWorkspaceRoot_eq]
  rfl

/-- Where no marker can be seen, the root is the working directory. -/
theorem projectRoot_of_unseen (hd : fs.isDirAt d = true) (h : ∀ l, l <:+ d → ¬Seen fs l)
    (henv : env.path? Environment.projectRoot = none) :
    projectRoot fs none env (pathTo d) = pathTo d := by
  have hnames := FileSystem.isName_of_mem (FileSystem.get?_isSome_of_isDirAt hd)
  have hnone : findWorkspaceRoot fs (pathTo d) = none := by
    refine List.find?_eq_none.mpr fun q hq hw => ?_
    obtain ⟨l, rfl, hl⟩ := FileSystem.exists_of_mem_ancestorsUpTo hnames hq
    obtain ⟨below, rfl⟩ := id hl
    exact h l hl ((isWorkspace_pathTo_iff (FileSystem.isDirAt_append hd)).mp hw)
  unfold projectRoot
  rw [henv, hnone]
  rfl

end

/-! ## 3. The root for any path -/

/-- The path of the marker in a directory leads to a directory, links followed. -/
def HoldsMarker (fs : FileSystem) (dir : Path) : Prop :=
  ∃ l, fs.find (dir.join workspaceMarker) = .ok l ∧ fs.isDirAt l = true

/-- The longest lexical ancestor of a path that holds the marker. -/
structure NearestTop (fs : FileSystem) (start r : Path) : Prop where
  hasAncestor : start.HasAncestor r
  holdsMarker : HoldsMarker fs r
  longest : ∀ q, start.HasAncestor q → r.bytes.length < q.bytes.length → ¬HoldsMarker fs q

/-- Where the project root comes from: the command line, the variable, the nearest top of a
    workspace, or the working directory. -/
inductive RootFor (fs : FileSystem) (given : Option Path) (env : Environment) (cwd : Path) :
    Path → Prop
  | given {root : Path} (gives : given = some root) : RootFor fs given env cwd (cwd.join root)
  | named {value : String} (notGiven : given = none)
      (overrides : env.Overrides Environment.projectRoot value) :
      RootFor fs given env cwd (cwd.join (.ofString value))
  | found {r : Path} (notGiven : given = none)
      (unset : ∀ value, ¬env.Overrides Environment.projectRoot value)
      (nearest : NearestTop fs cwd r) : RootFor fs given env cwd r
  | cwd (notGiven : given = none) (unset : ∀ value, ¬env.Overrides Environment.projectRoot value)
      (absent : ∀ q, cwd.HasAncestor q → ¬HoldsMarker fs q) : RootFor fs given env cwd cwd

section

variable {fs : FileSystem} {start r cwd : Path} {given : Option Path} {env : Environment}

theorem isWorkspace_iff {dir : Path} : isWorkspace fs dir = true ↔ HoldsMarker fs dir := by
  unfold isWorkspace FileSystem.isDir FileSystem.stat? HoldsMarker
  cases hfind : fs.find (dir.join workspaceMarker) with
  | error e => simp
  | ok l => simp [FileSystem.isDirAt]

/-- **The root that is found is the nearest top of a workspace.** -/
theorem findWorkspaceRoot_eq_some_iff :
    findWorkspaceRoot fs start = some r ↔ NearestTop fs start r := by
  unfold findWorkspaceRoot
  rw [List.find?_eq_some_iff_append]
  constructor
  · rintro ⟨hr, front, back, hsplit, hfront⟩
    have hmem : r ∈ start.ancestors := by simp [hsplit]
    refine ⟨Path.mem_ancestors_iff.mp hmem, isWorkspace_iff.mp hr, fun q hq hlonger hmarked => ?_⟩
    -- a longer ancestor stands in front of the one that is found
    have horder := start.pairwise_ancestors
    rw [hsplit] at horder
    have hback := (List.pairwise_cons.mp (List.pairwise_append.mp horder).2.1).1
    rcases List.mem_append.mp (hsplit ▸ Path.mem_ancestors_iff.mpr hq) with hq | hq
    · have hnot := hfront q hq
      rw [isWorkspace_iff.mpr hmarked] at hnot
      cases hnot
    · rcases List.mem_cons.mp hq with rfl | hq
      · exact Nat.lt_irrefl _ hlonger
      · exact Nat.lt_asymm hlonger (hback q hq)
  · rintro ⟨hancestor, hholds, hlongest⟩
    obtain ⟨front, back, hsplit⟩ := List.append_of_mem (Path.mem_ancestors_iff.mpr hancestor)
    refine ⟨isWorkspace_iff.mpr hholds, front, back, hsplit, fun q hq => ?_⟩
    have horder := start.pairwise_ancestors
    rw [hsplit] at horder
    have hlonger := (List.pairwise_append.mp horder).2.2 q hq r List.mem_cons_self
    have hmem : q ∈ start.ancestors := by
      rw [hsplit]
      exact List.mem_append_left _ hq
    cases hw : isWorkspace fs q with
    | false => rfl
    | true =>
      exact absurd (isWorkspace_iff.mp hw) (hlongest q (Path.mem_ancestors_iff.mp hmem) hlonger)

theorem findWorkspaceRoot_eq_none_iff :
    findWorkspaceRoot fs start = none ↔ ∀ q, start.HasAncestor q → ¬HoldsMarker fs q := by
  unfold findWorkspaceRoot
  simp only [List.find?_eq_none, Path.mem_ancestors_iff, isWorkspace_iff]

theorem projectRoot_of_unset (hunset : ∀ value, ¬env.Overrides Environment.projectRoot value) :
    projectRoot fs none env cwd = (findWorkspaceRoot fs cwd).getD cwd := by
  unfold projectRoot
  rw [Environment.path?_eq_none_iff.mpr hunset]

theorem projectRoot_of_rootFor (h : RootFor fs given env cwd r) :
    projectRoot fs given env cwd = r := by
  cases h with
  | given hgiven =>
    subst hgiven
    rfl
  | named hnone hvalue =>
    subst hnone
    unfold projectRoot
    rw [Environment.path?_eq_some_iff.mpr ⟨_, hvalue, rfl⟩]
  | found hnone hunset hnearest =>
    subst hnone
    rw [projectRoot_of_unset hunset, findWorkspaceRoot_eq_some_iff.mpr hnearest]
    rfl
  | cwd hnone hunset habsent =>
    subst hnone
    rw [projectRoot_of_unset hunset, findWorkspaceRoot_eq_none_iff.mpr habsent]
    rfl

theorem exists_rootFor (fs : FileSystem) (given : Option Path) (env : Environment) (cwd : Path) :
    ∃ r, RootFor fs given env cwd r := by
  cases hgiven : given with
  | some root => exact ⟨_, .given rfl⟩
  | none =>
    cases hpath : env.path? Environment.projectRoot with
    | some p =>
      obtain ⟨value, hvalue, -⟩ := Environment.path?_eq_some_iff.mp hpath
      exact ⟨_, .named rfl hvalue⟩
    | none =>
      have hunset := Environment.path?_eq_none_iff.mp hpath
      cases hfind : findWorkspaceRoot fs cwd with
      | some r => exact ⟨r, .found rfl hunset (findWorkspaceRoot_eq_some_iff.mp hfind)⟩
      | none => exact ⟨cwd, .cwd rfl hunset (findWorkspaceRoot_eq_none_iff.mp hfind)⟩

end

/-- **The project root of any path.**

    * From any path, the longest of its lexical ancestors that holds the marker of a workspace is
      found, and nothing if none of them does.
    * The project root is what the command line gives, seen from the working directory; else what
      the variable holds, if that is more than white space, seen from there; else the root that is
      found from the working directory; else the working directory. -/
theorem root_from_nearest_top (fs : FileSystem) :
    (∀ start r, findWorkspaceRoot fs start = some r ↔ NearestTop fs start r) ∧
    (∀ start, findWorkspaceRoot fs start = none ↔
      ∀ q, start.HasAncestor q → ¬HoldsMarker fs q) ∧
    ∀ given env cwd r, projectRoot fs given env cwd = r ↔ RootFor fs given env cwd r := by
  refine ⟨fun start r => findWorkspaceRoot_eq_some_iff, fun start => findWorkspaceRoot_eq_none_iff,
    fun given env cwd r => ⟨?_, projectRoot_of_rootFor⟩⟩
  rintro rfl
  obtain ⟨r, hr⟩ := exists_rootFor fs given env cwd
  rwa [projectRoot_of_rootFor hr]

end DeviceKeys
