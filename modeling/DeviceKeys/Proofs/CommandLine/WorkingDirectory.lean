import DeviceKeys.Proofs.CommandLine.Keymgr
import DeviceKeys.Proofs.CommandLine.Overrides
import DeviceKeys.Proofs.FileSystem.WorkingDirectory
import DeviceKeys.Proofs.KeyFile
import DeviceKeys.Proofs.Manager.Run
import DeviceKeys.Proofs.ProjectRoot

/-! # The key manager from any directory of a workspace

* An operation on a key store file with an absolute path does the same from every working
  directory, if it writes to no other file (`Manager.run_withCwd`).
* A run goes by the top of the workspace alone: the settings are looked for there, and the path of
  the key store file is seen from there (`CommandLine.storePath_of_seenFrom`).

So it does not matter from which directory of a workspace the key manager is run
(`keymgr_from_anywhere`), unless the workspace lies so deep that its marker cannot be seen
(`deep_workspace_tells_apart`).
-/

namespace DeviceKeys

variable {fs : FileSystem} {p root : Path} {env : Environment}

/-! ## 1. The key store file -/

namespace KeyFile

theorem load_withCwd (hp : p.isAbsolute = true) (fs : FileSystem) (d : Location) :
    load (fs.withCwd d) p = load fs p :=
  load_congr (FileSystem.read_withCwd hp fs d)

/-- A file that loads can be read or is not there, so it is replaced in the same way from every
    working directory. -/
theorem save_withCwd {old : KeyStore} {d : Location} (hp : p.isAbsolute = true)
    (hd : fs.isDirAt d = true) (hl : load fs p = .ok old) (s : KeyStore) :
    save (fs.withCwd d) p s = ((save fs p s).1, (save fs p s).2.withCwd d) := by
  have hread : ∀ e, fs.read p = .error e → e = .noEntry := by
    intro e he
    rcases load_eq_ok hl with ⟨data, hdata, -⟩ | ⟨hnone, -⟩
    · rw [he] at hdata
      cases hdata
    · exact Except.error.inj (he.symm.trans hnone)
  unfold save
  rw [FileSystem.replace_withCwd hp hread hd]

end KeyFile

/-! ## 2. Operations -/

/-- What an operation leaves behind, seen from another working directory. -/
def Reply.withCwd (r : Reply) (d : Location) : Reply := ⟨r.result, r.fs.withCwd d, r.out⟩

namespace Manager

variable {d : Location}

theorem load_withCwd (hp : p.isAbsolute = true) (fs : FileSystem) (d : Location) :
    load (fs.withCwd d) p = load fs p := by
  unfold load
  rw [KeyFile.load_withCwd hp]

theorem selected_withCwd (hp : p.isAbsolute = true) (fs : FileSystem) (d : Location)
    (deviceId : Option String) : selected (fs.withCwd d) p deviceId = selected fs p deviceId := by
  unfold selected
  rw [load_withCwd hp]

theorem generate_withCwd (hp : p.isAbsolute = true) (hd : fs.isDirAt d = true) (key : DeviceKey)
    (deviceId manufacturerId : Option String) :
    generate (fs.withCwd d) p key deviceId manufacturerId =
      ((generate fs p key deviceId manufacturerId).1,
        (generate fs p key deviceId manufacturerId).2.withCwd d) := by
  by_cases hmissing : given deviceId = none ∨ given manufacturerId = none
  · rw [generate_of_missing hmissing, generate_of_missing hmissing]
  · obtain ⟨hid, hm⟩ := not_or.mp hmissing
    obtain ⟨id, hid⟩ := Option.ne_none_iff_exists'.mp hid
    obtain ⟨manufacturer, hm⟩ := Option.ne_none_iff_exists'.mp hm
    cases hl : KeyFile.load fs p with
    | error e =>
      rw [generate_of_not_loaded hid hm hl,
        generate_of_not_loaded hid hm ((KeyFile.load_withCwd hp fs d).trans hl)]
    | ok s =>
      rw [generate_of_loaded hid hm hl,
        generate_of_loaded hid hm ((KeyFile.load_withCwd hp fs d).trans hl),
        KeyFile.save_withCwd hp hd hl]
      rcases KeyFile.save fs p (s.put id ⟨manufacturer, key⟩) with ⟨e | u, fs'⟩ <;> rfl

/-- **An operation on a key store file with an absolute path does the same from every working
    directory**, if it does not write the key table, whose path is seen from there. -/
theorem run_withCwd (hp : p.isAbsolute = true) (hd : fs.isDirAt d = true) (key : DeviceKey)
    {op : Operation} (hop : ∀ output, op ≠ .cmakeDump output) (out : Output) :
    run (fs.withCwd d) p key op out = (run fs p key op out).withCwd d := by
  cases op with
  | generate deviceId manufacturerId =>
    rw [run_generate, run_generate, generate_withCwd hp hd]
    rfl
  | exportKey deviceId =>
    rw [run_exportKey, run_exportKey, selected_withCwd hp]
    rfl
  | cmakeDump output => exact absurd rfl (hop output)
  | fetchManufacturerId deviceId =>
    rw [run_fetchManufacturerId, run_fetchManufacturerId, selected_withCwd hp]
    rfl

end Manager

/-! ## 3. Runs -/

theorem Config.load_withCwd (hroot : root.isAbsolute = true) (fs : FileSystem) (d : Location)
    (env : Environment) : Config.load (fs.withCwd d) root env = Config.load fs root env := by
  have hp : (root.join Config.fileName).isAbsolute = true := Path.isAbsolute_join hroot _
  unfold Config.load Config.loadFile
  simp only [FileSystem.exists?_withCwd hp, FileSystem.readText_withCwd hp]

theorem marked_withCwd (fs : FileSystem) (d l : Location) :
    Marked (fs.withCwd d) l ↔ Marked fs l := by
  constructor
  · rintro (hs | ⟨hs, hw, hd⟩)
    · exact .dir hs
    · exact .link hs (by simpa using hw) hd
  · rintro (hs | ⟨hs, hw, hd⟩)
    · exact .dir hs
    · exact .link hs (by simpa using hw) hd

theorem seen_withCwd (fs : FileSystem) (d l : Location) : Seen (fs.withCwd d) l ↔ Seen fs l :=
  ⟨fun h => ⟨h.short, (marked_withCwd fs d l).mp h.marked⟩,
    fun h => ⟨h.short, (marked_withCwd fs d l).mpr h.marked⟩⟩

theorem SeenFrom.withCwd {d top : Location} (h : SeenFrom fs d top) (d' : Location) :
    SeenFrom (fs.withCwd d') d top where
  isDir := h.isDir
  below := h.below
  seen := (seen_withCwd fs d' top).mpr h.seen
  unseen := fun l htop hne hl => mt (seen_withCwd fs d' l).mp (h.unseen l htop hne hl)

/-- What a run leaves behind, seen from another working directory. -/
def Ended.withCwd : Ended → Location → Ended
  | .refused fault, _ => .refused fault
  | .finished status out messages fs, d => .finished status out messages (fs.withCwd d)

namespace CommandLine

open FileSystem (pathTo)

variable {launch : Launcher} {runtime : Runtime} {key : DeviceKey} {args : List Bytes}
  {flags : KeymgrFlags} {out : Output} {r top d d₁ d₂ : Location}

theorem flushed_withCwd (out : Output) (messages report : String) (fs : FileSystem) (d : Location) :
    flushed out messages report (fs.withCwd d) = (flushed out messages report fs).withCwd d := by
  unfold flushed
  rcases out.flush with ⟨e | u, out'⟩ <;> rfl

theorem runKeymgr_withCwd (hp : p.isAbsolute = true) (hd : fs.isDirAt d = true)
    (hop : ∀ output, flags.operation ≠ .cmakeDump output) (styled : Bool) (key : DeviceKey)
    (out : Output) :
    runKeymgr styled flags p key (fs.withCwd d) out =
      (runKeymgr styled flags p key fs out).withCwd d := by
  unfold runKeymgr
  simp only [Manager.run_withCwd hp hd key hop out]
  rcases Manager.run fs p key flags.operation out with ⟨e | outcome, fs', out'⟩
  · rfl
  · exact flushed_withCwd _ _ _ _ _

/-- A run of `keymgr` in the project at a root. -/
def runKeymgrAt (root : Path) (env : Environment) (flags : KeymgrFlags) (key : DeviceKey)
    (fs : FileSystem) (out : Output) : Ended :=
  match Config.load fs root env with
  | .error e => configFailed e out fs
  | .ok c => runKeymgr (Style.inUse env) flags (c.keysPath root) key fs out

theorem exists_finished (root : Path) (env : Environment) (flags : KeymgrFlags) (key : DeviceKey)
    (fs : FileSystem) (out : Output) : ∃ status out' messages after,
      runKeymgrAt root env flags key fs out = .finished status out' messages after := by
  unfold runKeymgrAt
  cases Config.load fs root env with
  | error e => exact ⟨_, _, _, _, rfl⟩
  | ok c =>
    simp only
    unfold runKeymgr
    rcases Manager.run fs (c.keysPath root) key flags.operation out with ⟨e | outcome, fs', out'⟩
    · exact ⟨_, _, _, _, rfl⟩
    · have hflushed := flushed_cases out' (warning (Style.inUse env) flags)
        (((outcome.status? (Style.inUse env)).map (statusLine (Style.inUse env))).getD "") fs'
      simp only
      generalize flushed out' (warning (Style.inUse env) flags) _ fs' = ended at hflushed ⊢
      cases hflushed <;> exact ⟨_, _, _, _, rfl⟩

/-- **The key store file of a run in a workspace** is the one that the settings at its top name. -/
theorem storePath_of_seenFrom (h : SeenFrom fs d top)
    (henv : env.path? Environment.projectRoot = none) (command : Command) :
    storePath env (fs.withCwd d) ⟨none, none, command⟩ =
      (Config.load fs (pathTo top) env).map (·.keysPath (pathTo top)) := by
  have hroot : rootOf env (fs.withCwd d) ⟨none, none, command⟩ = pathTo top := by
    unfold rootOf
    rw [FileSystem.cwd_withCwd h.isDir]
    exact (h.withCwd d).projectRoot_eq henv
  unfold storePath keysPath
  rw [hroot, Config.load_withCwd rfl]

/-- A run in a workspace ends as one does that starts at its top. -/
theorem run_of_seenFrom (h : SeenFrom fs d top)
    (henv : env.path? Environment.projectRoot = none)
    (hargs : Invocation.ofArguments args = .ok ⟨none, none, .keymgr flags⟩)
    (hop : ∀ output, flags.operation ≠ .cmakeDump output) :
    run launch runtime env (fs.withCwd d) key args out =
      (runKeymgrAt (pathTo top) env flags key fs out).withCwd d := by
  have hpath := storePath_of_seenFrom h henv (.keymgr flags)
  have hcwd : (fs.withCwd d).isDirAt (fs.withCwd d).cwd = true := by
    rw [FileSystem.cwd_withCwd h.isDir]
    exact h.isDir
  unfold storePath rootOf at hpath
  rw [run_of_arguments hargs, perform_of_isDirAt hcwd]
  unfold performIn runKeymgrAt
  simp only [hpath]
  cases Config.load fs (pathTo top) env with
  | error e => rfl
  | ok c => exact runKeymgr_withCwd (Path.isAbsolute_join rfl _) h.isDir hop _ key out

/-- **It does not matter from which directory of a workspace the key manager is run**, be it to
    generate a key, to export it, or to print a manufacturer id: the run ends with the same status,
    the same output and messages, and the same tree. From all of them it works on the key store file
    that the settings at the top name, seen from there.

    The marker must be seen at the top of the workspace, or somewhere above: it is looked at by its
    path, and if that is too long everywhere, each directory is a root of its own
    (`projectRoot_of_unseen`). -/
theorem keymgr_from_anywhere (launch : Launcher) (runtime : Runtime) (key : DeviceKey)
    (out : Output) (h₁ : NearestWorkspace fs r d₁) (h₂ : NearestWorkspace fs r d₂)
    (hseen : ∃ t, t <:+ r ∧ Seen fs t) (henv : env.path? Environment.projectRoot = none)
    (hargs : Invocation.ofArguments args = .ok ⟨none, none, .keymgr flags⟩)
    (hop : ∀ output, flags.operation ≠ .cmakeDump output) :
    (∃ (status : Nat) (out' : Output) (messages : String) (after : FileSystem),
      run launch runtime env (fs.withCwd d₁) key args out =
        .finished status out' messages (after.withCwd d₁) ∧
      run launch runtime env (fs.withCwd d₂) key args out =
        .finished status out' messages (after.withCwd d₂)) ∧
    ∃ top, SeenFrom fs r top ∧ ∀ d, NearestWorkspace fs r d →
      storePath env (fs.withCwd d) ⟨none, none, .keymgr flags⟩ =
        (Config.load fs (pathTo top) env).map (·.keysPath (pathTo top)) := by
  obtain ⟨t, ht, hseen⟩ := hseen
  obtain ⟨top, htop⟩ := exists_seenFrom (h₁.isDirAt_top) ht hseen
  obtain ⟨status, out', messages, after, hends⟩ :=
    exists_finished (pathTo top) env flags key fs out
  refine ⟨⟨status, out', messages, after, ?_, ?_⟩,
    top, htop, fun d h => storePath_of_seenFrom (h.seenFrom htop) henv _⟩
  · rw [run_of_seenFrom (h₁.seenFrom htop) henv hargs hop, hends]
    rfl
  · rw [run_of_seenFrom (h₂.seenFrom htop) henv hargs hop, hends]
    rfl

/-- The top of a workspace, and a directory deep in it. -/
def workspaceTop : Location := [Utf8.ofString "w"]

def workspaceInside : Location := Utf8.ofString "b" :: Utf8.ofString "a" :: workspaceTop

/-- A workspace with directories in it. -/
def smallWorkspace : FileSystem :=
  (((FileSystem.empty.put workspaceTop (.dir 0o755)).put (markerName :: workspaceTop)
    (.dir 0o755)).put workspaceInside.tail (.dir 0o755)).put workspaceInside (.dir 0o755)

/-- The arguments that ask for a key for a device. -/
def generateArguments : List Bytes :=
  ["keymgr", "--generate", "--dev-id", "d", "--manufacturer-id", "m"].map Utf8.ofString

theorem nearest_workspaceTop : NearestWorkspace smallWorkspace workspaceTop workspaceTop where
  isDir := by decide
  below := List.suffix_rfl
  marked := .dir (show smallWorkspace.get? _ = some (.dir 0o755) by decide +kernel)
  unmarked := fun l hr hne hl =>
    absurd (hl.eq_of_length (Nat.le_antisymm hl.length_le hr.length_le)) hne

theorem nearest_workspaceInside :
    NearestWorkspace smallWorkspace workspaceTop workspaceInside where
  isDir := by decide
  below := (List.suffix_cons _ _).trans (List.suffix_cons _ _)
  marked := nearest_workspaceTop.marked
  unmarked := by
    intro l hr hne hl
    have hnone {l : Location} (h : smallWorkspace.get? (markerName :: l) = none) :
        ¬Marked smallWorkspace l := by
      rintro (hs | hs) <;> cases h.symm.trans hs
    rcases List.suffix_cons_iff.mp hl with rfl | hl
    · exact hnone (by decide +kernel)
    rcases List.suffix_cons_iff.mp hl with rfl | hl
    · exact hnone (by decide +kernel)
    · exact nearest_workspaceTop.unmarked l hr hne hl

/-- A key is generated from deep inside a workspace as it is from the top. -/
theorem generate_from_inside :
    NearestWorkspace smallWorkspace workspaceTop workspaceTop ∧
    NearestWorkspace smallWorkspace workspaceTop workspaceInside ∧
    ∃ (status : Nat) (out' : Output) (messages : String) (after : FileSystem),
      run (fun _ _ fs => (.notStarted .noEntry, fs)) ⟨0, "", ""⟩ ⟨[]⟩
          (smallWorkspace.withCwd workspaceTop) ⟨List.replicate keyLength 7, rfl⟩ generateArguments
          .standard =
        .finished status out' messages (after.withCwd workspaceTop) ∧
      run (fun _ _ fs => (.notStarted .noEntry, fs)) ⟨0, "", ""⟩ ⟨[]⟩
          (smallWorkspace.withCwd workspaceInside) ⟨List.replicate keyLength 7, rfl⟩
          generateArguments .standard =
        .finished status out' messages (after.withCwd workspaceInside) := by
  have hargs : Invocation.ofArguments generateArguments =
      .ok ⟨none, none, .keymgr ⟨true, some "d", some "m", false, none⟩⟩ := by rfl
  have hop : ∀ output, KeymgrFlags.operation ⟨true, some "d", some "m", false, none⟩ ≠
      .cmakeDump output := by simp [KeymgrFlags.operation]
  exact ⟨nearest_workspaceTop, nearest_workspaceInside,
    (keymgr_from_anywhere _ _ _ _ nearest_workspaceTop nearest_workspaceInside
      ⟨workspaceTop, List.suffix_rfl, by decide, nearest_workspaceTop.marked⟩ rfl hargs hop).1⟩

/-! ## 4. Workspaces that lie too deep -/

/-- Where no marker can be seen from the working directory, and no settings are there, the value of
    the variable is seen from the working directory. -/
theorem worksOn_of_unseen (hd : fs.isDirAt d = true)
    (hshort : (pathTo d).bytes.length < FileSystem.pathLimit) (hunseen : ∀ l, l <:+ d → ¬Seen fs l)
    (hsettings : fs.get? (Config.fileName.bytes :: d) = none)
    (hroot : env.path? Environment.projectRoot = none)
    (hkeys : env.path? Environment.keysFile = some p) (command : Command) :
    WorksOn env (fs.withCwd d) ⟨none, none, command⟩ ((pathTo d).join p) := by
  have hcwd := FileSystem.cwd_withCwd hd
  have hrootOf : rootOf env (fs.withCwd d) ⟨none, none, command⟩ = pathTo d := by
    unfold rootOf
    rw [hcwd]
    exact projectRoot_of_unseen hd (fun l hl => mt (seen_withCwd fs d l).mp (hunseen l hl)) hroot
  have hfind := FileSystem.find_pathTo_of_isDirAt hd hshort
  have habsent : fs.exists? ((pathTo d).join Config.fileName) = false :=
    FileSystem.exists?_join_of_none hfind (by decide) (by decide) hd (by decide) hsettings
  have hload : Config.load (fs.withCwd d) (pathTo d) env = .ok (Config.default.override env) :=
    Config.load_eq (.noFile ((FileSystem.exists?_withCwd (Path.isAbsolute_join rfl _) fs d).trans
      habsent))
  refine ⟨by rw [hcwd]; exact hd, ?_⟩
  rw [storePath_of_variable (i := ⟨none, none, command⟩) rfl (hrootOf ▸ hload) hkeys, hrootOf]

/-- The tree of a directory and those that hold it. -/
def directoriesTo : Location → FileSystem
  | [] => FileSystem.empty
  | name :: l => (directoriesTo l).put (name :: l) (.dir 0o755)

theorem get?_directoriesTo : ∀ {l : Location}, (∀ name ∈ l, IsNamed [name]) → ∀ x : Location,
    (directoriesTo l).get? x = if x <:+ l then some (.dir 0o755) else none
  | [], _, x => by
    cases x with
    | nil => rfl
    | cons name l => simp [directoriesTo, FileSystem.empty, FileSystem.get?, findAt]
  | name :: l, h, x => by
    obtain ⟨hname, hl⟩ := List.forall_mem_cons.mp h
    have ih := get?_directoriesTo hl
    have hdir : (directoriesTo l).isDirAt l = true := by
      simp [FileSystem.isDirAt, ih, Entry.isDir]
    have hnone : (directoriesTo l).get? (name :: l) = none := by
      rw [ih, if_neg fun hs => absurd hs.length_le (by simp)]
    have hfits := FileSystem.fits_of_none (e := .dir 0o755) hdir
      (isNamed_cons.mpr (isNamed_cons.mp hname)) hnone
    unfold directoriesTo
    rw [FileSystem.get?_put hfits, ih]
    by_cases hx : x = name :: l
    · simp [hx]
    · simp [hx, List.suffix_cons_iff]

/-- The top of a workspace, with a path without links of 4092 bytes. -/
def deepTop : Location :=
  List.replicate 8 (List.replicate 254 0x61) ++ List.replicate 8 (List.replicate 255 0x61) ++
    [Utf8.ofString "tmp"]

/-- A directory in this workspace. -/
def deepInside : Location := Utf8.ofString "b" :: deepTop

theorem mem_deepInside {name : Path.Name} (h : name ∈ deepInside) :
    name = Utf8.ofString "b" ∨ name = Utf8.ofString "tmp" ∨ name = List.replicate 254 0x61 ∨
      name = List.replicate 255 0x61 := by
  simp only [deepInside, deepTop, List.mem_cons, List.mem_append, List.mem_replicate,
    List.not_mem_nil, or_false] at h
  rcases h with h | (⟨-, h⟩ | ⟨-, h⟩) | h
  · exact .inl h
  · exact .inr (.inr (.inl h))
  · exact .inr (.inr (.inr h))
  · exact .inr (.inl h)

theorem notMem_deepInside {name : Path.Name} (hlen : name.length < 254)
    (hb : name ≠ Utf8.ofString "b") (htmp : name ≠ Utf8.ofString "tmp") : name ∉ deepInside := by
  intro h
  rcases mem_deepInside h with rfl | rfl | rfl | rfl
  · exact hb rfl
  · exact htmp rfl
  · rw [List.length_replicate] at hlen
    omega
  · rw [List.length_replicate] at hlen
    omega

theorem isNamed_of_mem_deepInside {name : Path.Name} (h : name ∈ deepInside) : IsNamed [name] := by
  rcases mem_deepInside h with rfl | rfl | rfl | rfl <;> decide +kernel

theorem deepTop_ne_nil : deepTop ≠ [] :=
  List.append_ne_nil_of_right_ne_nil _ (List.cons_ne_nil _ _)

theorem length_deepTop : (pathTo deepTop).bytes.length = 4092 := by
  have htmp : (Utf8.ofString "tmp").length = 3 := by decide
  rw [FileSystem.bytes_pathTo deepTop_ne_nil, List.length_flatMap]
  simp only [deepTop, List.map_reverse, List.sum_reverse, List.map_append, List.map_replicate,
    List.map_cons, List.map_nil, List.length_cons, List.length_replicate, List.sum_append,
    List.sum_replicate_nat, List.sum_cons, List.sum_nil, htmp, Nat.reduceAdd, Nat.reduceMul]

theorem length_deepInside : (pathTo deepInside).bytes.length = 4094 := by
  have hb : (Utf8.ofString "b").length = 1 := by decide
  unfold deepInside
  rw [FileSystem.length_pathTo_cons deepTop_ne_nil, length_deepTop, hb]

/-- The workspace, with nothing in it but its marker and one more directory. -/
def deepWorkspace : FileSystem :=
  (directoriesTo deepInside).put (markerName :: deepTop) (.dir 0o755)

theorem get?_deepWorkspace (x : Location) : deepWorkspace.get? x =
    if x = markerName :: deepTop ∨ x <:+ deepInside then some (.dir 0o755) else none := by
  have hget := get?_directoriesTo fun _ => isNamed_of_mem_deepInside
  have hdir : (directoriesTo deepInside).isDirAt deepTop = true := by
    have htop : deepTop <:+ deepInside := List.suffix_cons _ _
    simp [FileSystem.isDirAt, hget, htop, Entry.isDir]
  have hnone : (directoriesTo deepInside).get? (markerName :: deepTop) = none := by
    rw [hget, if_neg]
    exact fun hs => absurd (List.cons.inj (hs.eq_of_length rfl)).1 (by decide)
  have hfits := FileSystem.fits_of_none (e := .dir 0o755) hdir (isNamed_markerName deepTop) hnone
  unfold deepWorkspace
  rw [FileSystem.get?_put hfits, hget]
  by_cases hx : x = markerName :: deepTop
  · simp [hx]
  · simp [hx]

theorem get?_deepWorkspace_of_notMem {name : Path.Name} (hmarker : name ≠ markerName)
    (h : name ∉ deepInside) : deepWorkspace.get? (name :: d) = none := by
  rw [get?_deepWorkspace, if_neg]
  rintro (hx | hx)
  · exact hmarker (List.cons.inj hx).1
  · exact h (hx.subset List.mem_cons_self)

theorem marked_deepWorkspace_iff {l : Location} : Marked deepWorkspace l ↔ l = deepTop := by
  have hin (h : deepWorkspace.get? (markerName :: l) ≠ none) : l = deepTop := by
    rw [get?_deepWorkspace] at h
    by_cases hx : markerName :: l = markerName :: deepTop ∨ markerName :: l <:+ deepInside
    · rcases hx with hx | hx
      · exact (List.cons.inj hx).2
      · exact absurd (hx.subset List.mem_cons_self)
          (notMem_deepInside (by decide) (by decide) (by decide))
    · exact absurd (if_neg hx) h
  constructor
  · rintro (hs | hs) <;> exact hin (by simp [hs])
  · rintro rfl
    exact .dir ((get?_deepWorkspace _).trans (if_pos (.inl rfl)))

theorem not_seen_deepWorkspace (l : Location) : ¬Seen deepWorkspace l := by
  rintro ⟨hshort, hmarked⟩
  obtain rfl := marked_deepWorkspace_iff.mp hmarked
  rw [FileSystem.length_pathTo_cons deepTop_ne_nil, length_deepTop] at hshort
  exact absurd hshort (by decide)

theorem nearest_deepTop : NearestWorkspace deepWorkspace deepTop deepTop where
  isDir := FileSystem.isDirAt_of_get? ((get?_deepWorkspace _).trans
    (if_pos (.inr (List.suffix_cons _ _))))
  below := List.suffix_rfl
  marked := marked_deepWorkspace_iff.mpr rfl
  unmarked := fun _ _ hne _ => mt marked_deepWorkspace_iff.mp hne

theorem nearest_deepInside : NearestWorkspace deepWorkspace deepTop deepInside where
  isDir := FileSystem.isDirAt_of_get? ((get?_deepWorkspace _).trans
    (if_pos (.inr List.suffix_rfl)))
  below := List.suffix_cons _ _
  marked := marked_deepWorkspace_iff.mpr rfl
  unmarked := fun _ _ hne _ => mt marked_deepWorkspace_iff.mp hne

/-- An environment that names the key store file `k`. -/
def deepEnvironment : Environment := ⟨[(Environment.keysFile, Utf8.ofString "k")]⟩

/-- The name of the key store file. -/
def deepName : Path.Name := Utf8.ofString "k"

/-- From a directory of the workspace a run works on the key store file in that directory. -/
theorem worksOn_deepWorkspace (hd : deepWorkspace.isDirAt d = true)
    (hshort : (pathTo d).bytes.length < FileSystem.pathLimit) :
    WorksOn deepEnvironment (deepWorkspace.withCwd d) fetchInvocation (pathTo (deepName :: d)) := by
  have hsettings : deepWorkspace.get? (Config.fileName.bytes :: d) = none :=
    get?_deepWorkspace_of_notMem (by decide)
      (notMem_deepInside (by decide) (by decide) (by decide))
  have hnames : ∀ n ∈ deepName :: d, Path.IsName n := List.forall_mem_cons.mpr
    ⟨by decide, FileSystem.isName_of_mem (FileSystem.get?_isSome_of_isDirAt hd)⟩
  rw [← FileSystem.join_pathTo hnames]
  exact worksOn_of_unseen hd hshort (fun l _ => not_seen_deepWorkspace l) hsettings rfl rfl _

/-- The key store file is not there, and cannot be looked for if its path is too long. -/
theorem read_deepWorkspace (hd : deepWorkspace.isDirAt d = true) :
    (deepWorkspace.withCwd d).read (pathTo (deepName :: d)) =
      .error (if FileSystem.pathLimit ≤ (pathTo (deepName :: d)).bytes.length then .nameTooLong
        else .noEntry) := by
  have hnone : deepWorkspace.get? (deepName :: d) = none :=
    get?_deepWorkspace_of_notMem (by decide)
      (notMem_deepInside (by decide) (by decide) (by decide))
  rw [FileSystem.read_withCwd rfl]
  exact FileSystem.read_of_find_error
    (FileSystem.find_pathTo_of_none hd (isNamed_cons.mpr (by decide)) hnone)

/-- **A workspace may lie too deep for its marker to be seen**, and it then matters from which of
    its directories the key manager is run. -/
theorem deep_workspace_tells_apart :
    NearestWorkspace deepWorkspace deepTop deepTop ∧
    NearestWorkspace deepWorkspace deepTop deepInside ∧
    deepEnvironment.path? Environment.projectRoot = none ∧
    Invocation.ofArguments fetchArguments = .ok fetchInvocation ∧
    fetchInvocation.projectRoot = none ∧ fetchInvocation.keysFile = none ∧
    (∃ messages after,
      run (fun _ _ fs => (.notStarted .noEntry, fs)) ⟨0, "", ""⟩ deepEnvironment
        (deepWorkspace.withCwd deepTop) KeyFile.someKey fetchArguments .standard =
          .finished 3 .standard messages after) ∧
    ∃ messages after,
      run (fun _ _ fs => (.notStarted .noEntry, fs)) ⟨0, "", ""⟩ deepEnvironment
        (deepWorkspace.withCwd deepInside) KeyFile.someKey fetchArguments .standard =
          .finished 1 .standard messages after := by
  have hname : deepName.length = 1 := by decide
  have hids : ¬(KeymgrFlags.operation ⟨false, some "d", none, false, none⟩).Lacks := by
    simp [Operation.Lacks, KeymgrFlags.operation, Operation.requiredIds]
  refine ⟨nearest_deepTop, nearest_deepInside, rfl, ofArguments_fetch, rfl, rfl, ?_, ?_⟩
  · have hworks := worksOn_deepWorkspace nearest_deepTop.isDir
      (by rw [length_deepTop]; decide)
    have hread := read_deepWorkspace nearest_deepTop.isDir
    rw [FileSystem.length_pathTo_cons deepTop_ne_nil, length_deepTop, hname,
      if_neg (by decide)] at hread
    rw [run_of_arguments ofArguments_fetch]
    obtain ⟨messages, hends⟩ := (keymgr_cases (fun _ _ fs => (.notStarted .noEntry, fs))
      ⟨0, "", ""⟩ _ _ KeyFile.someKey rfl (.inl rfl)).of_unknown hworks
        ⟨"d", _, rfl, by decide, KeyFile.load_of_noEntry hread, by decide⟩
    exact ⟨messages, _, hends⟩
  · have hworks := worksOn_deepWorkspace nearest_deepInside.isDir
      (by rw [length_deepInside]; decide)
    have hread := read_deepWorkspace nearest_deepInside.isDir
    rw [FileSystem.length_pathTo_cons (l := deepInside) (List.cons_ne_nil _ _),
      length_deepInside, hname, if_pos (by decide)] at hread
    rw [run_of_arguments ofArguments_fetch]
    exact (keymgr_cases (fun _ _ fs => (.notStarted .noEntry, fs)) ⟨0, "", ""⟩ _ _ KeyFile.someKey
      rfl (.inl rfl)).of_not_loaded hworks hids (KeyFile.load_of_fault (by simp) hread)

end CommandLine

end DeviceKeys
