import DeviceKeys.Proofs.Manager.Effect
import DeviceKeys.Proofs.Manager.Generate

/-! # Two paths to one key file

Two paths that lead to one file, through whatever links, are one to every operation:

* A replacement asks of its path nothing but what it is resolved to (`replace_congr`), and where it
  can be resolved that is the file itself. So both paths write to one place, in one way
  (`LeadsToFile.replace_eq`), and both lead to that place afterwards (`LeadsToFile.of_replace`).
* A file is read from a path just when the path is short enough to be opened
  (`LeadsToFile.read_eq`).
* An operation tells of its path only in the faults of the store (`Reply.renamed`).

**`aliases_run_alike`**: an operation on the one path does what it does on the other, unless just
one of the two is too long to be opened. `aliases_run_apart` has two such paths. It also has two
that can be opened and not be resolved, through just one of which a key can be stored.
-/

namespace DeviceKeys

namespace FileSystem

variable {fs fs' : FileSystem} {m : Location} {p q : Path} {data : Bytes}

/-! ## 1. Files -/

/-- **A replacement asks of a path what it is resolved to.** -/
theorem replace_congr (h : fs.replaceTarget q = fs.replaceTarget p) (data : Bytes) :
    fs.replace q data = fs.replace p data := by
  unfold replace
  rw [h]

namespace LeadsToFile

theorem replaceTarget_eq (hp : LeadsToFile fs p m) (hres : fs.Resolvable p) :
    fs.replaceTarget p = pathTo m := by
  obtain ⟨hc, hw, -⟩ := hp
  rw [replaceTarget_of_walk hc hw, if_pos hres]

/-- **Two paths to one file are replaced alike**, if both can be resolved. -/
theorem replace_eq (hp : LeadsToFile fs p m) (hq : LeadsToFile fs q m)
    (hres : fs.Resolvable p ∧ fs.Resolvable q) (data : Bytes) :
    fs.replace q data = fs.replace p data :=
  replace_congr ((hq.replaceTarget_eq hres.2).trans (hp.replaceTarget_eq hres.1).symm) data

/-- **Both still lead to it** when it has been replaced through one of them. -/
theorem of_replace (hp : LeadsToFile fs p m) (hq : LeadsToFile fs q m)
    (hres : fs.Resolvable p) (h : fs.replace p data = (.ok (), fs')) :
    LeadsToFile fs' q m ∧ ∃ mode, fs'.get? m = some (.file mode data) := by
  obtain ⟨l, name, hr⟩ := replace_eq_ok h
  obtain rfl := (hr.eq_iff_of_leadsToFile hp).mpr (.inl hres)
  obtain ⟨hc, hw, mode, old, he⟩ := hq
  obtain ⟨mode', hfile⟩ := hr.get?_landing
  refine ⟨⟨hc, ?_, mode', data, hfile⟩, mode', hfile⟩
  rw [hr.cwd]
  exact hr.walk_found hw ⟨_, he, by simp⟩

/-- **What a path to a file reads as.** -/
theorem read_eq (hp : LeadsToFile fs p m) {mode : Nat} (hm : fs.get? m = some (.file mode data)) :
    fs.read p = if pathLimit ≤ p.bytes.length then .error .nameTooLong else .ok data := by
  obtain ⟨hc, hw, -⟩ := hp
  split
  · rename_i hlen
    refine read_of_checkPath_error ?_
    unfold checkPath
    rw [hc]
    exact if_pos hlen
  · rename_i hlen
    exact read_eq_ok_iff.mpr ⟨m, mode, find_eq_ok_iff.mpr
      ⟨checkPath_eq_ok_iff.mpr ⟨hc, Nat.not_le.mp hlen⟩, hw⟩, hm⟩

theorem read_congr (hp : LeadsToFile fs p m) (hq : LeadsToFile fs q m)
    (hlen : p.bytes.length < pathLimit ↔ q.bytes.length < pathLimit) : fs.read q = fs.read p := by
  obtain ⟨-, -, mode, data, he⟩ := id hp
  have hle : pathLimit ≤ q.bytes.length ↔ pathLimit ≤ p.bytes.length := by
    rw [← Nat.not_lt, ← Nat.not_lt, hlen]
  rw [hq.read_eq he, hp.read_eq he]
  simp only [hle]

end LeadsToFile

end FileSystem

/-! ## 2. Replies, told of another path -/

/-- The fault, told of another path. -/
def StoreFault.renamed (q : Path) : StoreFault → StoreFault
  | .unreadable _ fault => .unreadable q fault
  | .corrupt _ refusal => .corrupt q refusal
  | .unwritable _ fault => .unwritable q fault

/-- The fault, told of another keys path. -/
def ManagerFault.renamed (q : Path) : ManagerFault → ManagerFault
  | .store fault => .store (fault.renamed q)
  | fault => fault

/-- The reply, told of another keys path. -/
def Reply.renamed (q : Path) (r : Reply) : Reply :=
  ⟨r.result.mapError (ManagerFault.renamed q), r.fs, r.out⟩

/-- A reply that tells of an unreadable store does so under any name. -/
theorem exists_unreadable {r : Reply} {p q : Path} {fault : IoFault}
    (h : (r.renamed q).result = .error (.store (.unreadable p fault))) :
    ∃ p', r.result = .error (.store (.unreadable p' fault)) := by
  obtain ⟨result, fs, out⟩ := r
  cases result with
  | ok outcome => cases h
  | error e =>
    cases e with
    | store e =>
      cases e with
      | unreadable p' fault' =>
        cases h
        exact ⟨p', rfl⟩
      | _ => cases h
    | _ => cases h

namespace KeyFile

open FileSystem

variable {fs : FileSystem} {p q : Path}

/-- Where two paths read alike they load alike. -/
theorem load_renamed (h : fs.read q = fs.read p) :
    load fs q = (load fs p).mapError (StoreFault.renamed q) := by
  cases hr : fs.read p with
  | ok data =>
    rw [load_of_read (h.trans hr), load_of_read hr]
    cases KeyStore.ofJson data <;> rfl
  | error e =>
    by_cases hne : e = .noEntry
    · subst hne
      rw [load_of_noEntry (h.trans hr), load_of_noEntry hr]
      rfl
    · rw [load_of_fault hne (h.trans hr), load_of_fault hne hr]
      rfl

/-- Where two paths are replaced alike a store is saved alike. -/
theorem save_renamed {s : KeyStore} (h : fs.replace q s.saved = fs.replace p s.saved) :
    save fs q s = ((save fs p s).1.mapError (StoreFault.renamed q), (save fs p s).2) := by
  unfold save
  rw [h]
  rcases fs.replace p s.saved with ⟨e | u, fs'⟩ <;> rfl

end KeyFile

/-- The operation replaces the key file. -/
def Operation.Stores (op : Operation) : Prop :=
  ∃ deviceId manufacturerId, op = .generate deviceId manufacturerId

namespace Manager

open FileSystem
open KeyFile (oneDevice someKey eq_ok_of_toOption)

variable {fs fs' : FileSystem} {m : Location} {p q : Path} {key : DeviceKey} {op : Operation}
  {out : Output} {deviceId manufacturerId : Option String} {outcome : Outcome}

/-! ## 3. Operations on paths that read alike -/

section Alike

variable (hread : fs.read q = fs.read p)
include hread

theorem load_renamed : load fs q = (load fs p).mapError (ManagerFault.renamed q) := by
  unfold load
  rw [KeyFile.load_renamed hread]
  cases KeyFile.load fs p <;> rfl

/-- A store that the one path loads is loaded by the other. -/
theorem load_ok_renamed {s : KeyStore} (hl : load fs p = .ok s) : load fs q = .ok s := by
  rw [load_renamed hread, hl]
  rfl

theorem generate_renamed (hreplace : ∀ data, fs.replace q data = fs.replace p data) :
    generate fs q key deviceId manufacturerId =
      ((generate fs p key deviceId manufacturerId).1.mapError (ManagerFault.renamed q),
        (generate fs p key deviceId manufacturerId).2) := by
  unfold generate
  split
  · cases hl : load fs p with
    | error e =>
      rw [load_renamed hread, hl]
      rfl
    | ok s =>
      simp only [load_ok_renamed hread hl, KeyStore.insert, KeyFile.save_renamed (hreplace _)]
      generalize KeyFile.save fs p _ = r
      rcases r with ⟨e | u, fs'⟩ <;> rfl
  · rfl

theorem dump_renamed (output : Path) : dump fs q output =
    ((dump fs p output).1.mapError (ManagerFault.renamed q), (dump fs p output).2) := by
  unfold dump
  cases hl : load fs p with
  | error e =>
    rw [load_renamed hread, hl]
    rfl
  | ok s =>
    simp only [load_ok_renamed hread hl]
    rcases fs.replace output (Utf8.ofString s.keyTable) with ⟨e | u, fs'⟩ <;> rfl

theorem selected_renamed (deviceId : Option String) :
    selected fs q deviceId = (selected fs p deviceId).mapError (ManagerFault.renamed q) := by
  cases hd : given deviceId with
  | none =>
    rw [selected_of_missing hd, selected_of_missing hd]
    rfl
  | some id =>
    have hrecord (s : KeyStore) :
        recordOf s id = (recordOf s id).mapError (ManagerFault.renamed q) := by
      unfold recordOf
      cases s.get? id <;> rfl
    rw [selected_of_given hd, selected_of_given hd, load_renamed hread]
    cases load fs p with
    | error e => rfl
    | ok s => exact hrecord s

theorem print_renamed (pieces : KeyRecord → List Bytes) :
    print out ((selected fs q deviceId).map pieces) =
      ((print out ((selected fs p deviceId).map pieces)).1.mapError (ManagerFault.renamed q),
        (print out ((selected fs p deviceId).map pieces)).2) := by
  have hselected := selected_renamed hread deviceId
  cases hs : selected fs p deviceId with
  | error e =>
    rw [hselected, hs]
    rfl
  | ok record =>
    have hq : selected fs q deviceId = .ok record := by rw [hselected, hs]; rfl
    rw [hq]
    unfold print
    simp only [Except.map]
    rcases out.writeAll (pieces record) with ⟨e | u, out'⟩ <;> rfl

/-- **An operation does on one path what it does on another** that reads alike, and is replaced
    alike where the operation replaces it. -/
theorem run_renamed (hreplace : op.Stores → ∀ data, fs.replace q data = fs.replace p data) :
    run fs q key op out = (run fs p key op out).renamed q := by
  cases op with
  | generate deviceId manufacturerId =>
    rw [run_generate, run_generate, generate_renamed hread (hreplace ⟨_, _, rfl⟩)]
    rfl
  | exportKey deviceId =>
    rw [run_exportKey, run_exportKey, print_renamed hread]
    rfl
  | cmakeDump output =>
    rw [run_cmakeDump, run_cmakeDump, dump_renamed hread]
    rfl
  | fetchManufacturerId deviceId =>
    rw [run_fetchManufacturerId, run_fetchManufacturerId, print_renamed hread]
    rfl

end Alike

/-! ## 4. Operations on a path that cannot be opened -/

/-- An operation that lacks an id asks nothing of its path. -/
theorem run_of_lacks (h : op.Lacks) : run fs q key op out = (run fs p key op out).renamed q := by
  rw [run_of_missing h, run_of_missing h]
  rfl

/-- A record that cannot be selected for an unreadable store is one whose store cannot be read. -/
theorem load_of_selected {fault : IoFault} {r : Path}
    (h : selected fs p deviceId = .error (.store (.unreadable r fault))) :
    KeyFile.load fs p = .error (.unreadable r fault) := by
  cases hd : given deviceId with
  | none =>
    rw [selected_of_missing hd] at h
    cases h
  | some id =>
    cases hl : KeyFile.load fs p with
    | error e =>
      rw [selected_of_given hd, load_of_error hl] at h
      cases h
      rfl
    | ok s =>
      rw [selected_of_loaded hd hl, recordOf] at h
      split at h <;> cases h

theorem load_of_print {fault : IoFault} {r : Path} {pieces : KeyRecord → List Bytes}
    (h : (print out ((selected fs p deviceId).map pieces)).1 =
      .error (.store (.unreadable r fault))) :
    KeyFile.load fs p = .error (.unreadable r fault) := by
  cases hs : selected fs p deviceId with
  | error e =>
    rw [hs] at h
    cases h
    exact load_of_selected hs
  | ok record =>
    have hcases := print_cases out (.ok (pieces record))
    rw [hs] at h
    simp only [Except.map] at h
    generalize print out (.ok (pieces record)) = x at h hcases
    cases hcases <;> cases h

/-- An operation tells of an unreadable store only where the store does not load for that. -/
theorem load_of_run {fault : IoFault} {r : Path}
    (h : (run fs p key op out).result = .error (.store (.unreadable r fault))) :
    KeyFile.load fs p = .error (.unreadable r fault) := by
  cases op with
  | generate deviceId manufacturerId =>
    have hcases := generate_cases fs p key deviceId manufacturerId
    rw [run_generate] at h
    simp only at h
    generalize generate fs p key deviceId manufacturerId = x at h hcases
    cases hcases with
    | missing => cases h
    | notLoaded hl =>
      cases h
      exact hl
    | notSaved _ _ _ hs =>
      obtain ⟨e, rfl, -⟩ := KeyFile.replace_error_of_save hs
      cases h
    | stored => cases h
  | exportKey deviceId =>
    rw [run_exportKey] at h
    exact load_of_print h
  | cmakeDump output =>
    have hcases := dump_cases fs p output
    rw [run_cmakeDump] at h
    simp only at h
    generalize dump fs p output = x at h hcases
    cases hcases with
    | notLoaded hl =>
      cases h
      exact hl
    | notWritten => cases h
    | written => cases h
  | fetchManufacturerId deviceId =>
    rw [run_fetchManufacturerId] at h
    exact load_of_print h

/-! ## 5. Two paths to one file -/

theorem load_of_long (hp : LeadsToFile fs p m) (hlen : ¬p.bytes.length < pathLimit) :
    KeyFile.load fs p = .error (.unreadable p .nameTooLong) := by
  obtain ⟨-, -, mode, data, he⟩ := id hp
  refine KeyFile.load_of_fault (by decide) ?_
  rw [hp.read_eq he, if_pos (Nat.not_lt.mp hlen)]

/-- Where a path to a file can be opened, no operation tells of an unreadable store. -/
theorem run_ne_of_short (hp : LeadsToFile fs p m) (hlen : p.bytes.length < pathLimit) (r : Path)
    (fault : IoFault) : (run fs p key op out).result ≠ .error (.store (.unreadable r fault)) := by
  intro h
  have hload := load_of_run h
  obtain ⟨-, -, mode, data, he⟩ := id hp
  rw [KeyFile.load_of_read ((hp.read_eq he).trans (if_neg (Nat.not_le.mpr hlen)))] at hload
  cases hj : KeyStore.ofJson data <;> (rw [hj] at hload; cases hload)

/-- A path that leads to the file of a saved store loads it just when it can be opened. -/
theorem load_saved_iff {mode : Nat} {s : KeyStore} (hp : LeadsToFile fs p m)
    (hm : fs.get? m = some (.file mode s.saved)) :
    KeyFile.load fs p = .ok s ↔ p.bytes.length < pathLimit := by
  have hread := hp.read_eq hm
  constructor
  · exact KeyFile.length_lt_of_load
  · intro hlen
    rw [if_neg (Nat.not_le.mpr hlen)] at hread
    exact KeyFile.load_of_read_saved hread

/-- **What a key that was stored through one path is through both.** -/
theorem generate_through_aliases (hp : LeadsToFile fs p m) (hq : LeadsToFile fs q m)
    (hres : fs.Resolvable p)
    (h : generate fs p key deviceId manufacturerId = (.ok outcome, fs')) :
    LeadsToFile fs' p m ∧ LeadsToFile fs' q m ∧ ∃ id manufacturer s,
      given deviceId = some id ∧ given manufacturerId = some manufacturer ∧
      KeyFile.load fs p = .ok s ∧
      KeyFile.load fs' p = .ok (s.put id ⟨manufacturer, key⟩) ∧
      (KeyFile.load fs' q = .ok (s.put id ⟨manufacturer, key⟩) ↔ q.bytes.length < pathLimit) := by
  obtain ⟨id, manufacturer, s, hd, horigin, hl, hs, -⟩ := generate_eq_ok h
  have hrep := KeyFile.save_eq_ok_iff.mp hs
  obtain ⟨hp', -⟩ := hp.of_replace hp hres hrep
  obtain ⟨hq', mode, hfile⟩ := hp.of_replace hq hres hrep
  exact ⟨hp', hq', id, manufacturer, s, hd, horigin, hl,
    (load_saved_iff hp' hfile).mpr (KeyFile.length_lt_of_load hl), load_saved_iff hq' hfile⟩

/-- **Two paths to one file are one to every operation.** An operation on the one ends as it does on
    the other, in one tree, with one output and one result, a fault of the store apart, which names
    the path it was given; unless it needs the store, and just one of the paths is too long to be
    opened. To store a key, both must be ones that can be resolved. When one has been stored through
    the one path, which can be resolved, both lead to the file as before, and the other loads the
    new store too, if it can be opened. -/
theorem aliases_run_alike (hp : LeadsToFile fs p m) (hq : LeadsToFile fs q m) :
    (∀ key op out, (op.Stores → fs.Resolvable p ∧ fs.Resolvable q) →
      (run fs q key op out = (run fs p key op out).renamed q ↔
        op.Lacks ∨ (p.bytes.length < pathLimit ↔ q.bytes.length < pathLimit))) ∧
    ∀ key deviceId manufacturerId out outcome fs' out', fs.Resolvable p →
      run fs p key (.generate deviceId manufacturerId) out = ⟨.ok outcome, fs', out'⟩ →
        LeadsToFile fs' p m ∧ LeadsToFile fs' q m ∧ ∃ id manufacturer s,
          given deviceId = some id ∧ given manufacturerId = some manufacturer ∧
          KeyFile.load fs p = .ok s ∧
          KeyFile.load fs' p = .ok (s.put id ⟨manufacturer, key⟩) ∧
          (KeyFile.load fs' q = .ok (s.put id ⟨manufacturer, key⟩) ↔
            q.bytes.length < pathLimit) := by
  refine ⟨fun key op out hres => ⟨fun h => ?_, ?_⟩, ?_⟩
  · by_cases hlacks : op.Lacks
    · exact .inl hlacks
    refine .inr ⟨fun hshort => Decidable.byContradiction fun hlong => ?_,
      fun hshort => Decidable.byContradiction fun hlong => ?_⟩
    · -- the fault of the other path would be one of this path too
      have hresult := congrArg Reply.result h
      rw [run_of_not_loaded (load_of_long hq hlong) hlacks] at hresult
      obtain ⟨r, hr⟩ := exists_unreadable hresult.symm
      exact run_ne_of_short hp hshort r _ hr
    · rw [run_of_not_loaded (load_of_long hp hlong) hlacks] at h
      exact run_ne_of_short hq hshort q _ (congrArg Reply.result h)
  · rintro (hlacks | hlen)
    · exact run_of_lacks hlacks
    · exact run_renamed (hp.read_congr hq hlen) fun hstores => hp.replace_eq hq (hres hstores)
  · intro key deviceId manufacturerId out outcome fs' out' hres h
    rw [run_generate] at h
    obtain ⟨hresult, rfl, -⟩ := Reply.mk.inj h
    exact generate_through_aliases hp hq hres (Prod.ext hresult rfl)

/-- The key file of one device, and a link to it. -/
def linkedKeys : FileSystem :=
  oneDeviceFile.put [Utf8.ofString "L"] (.link (Path.ofString "./keys.json"))

/-- A device that is stored through the link is found through the file. -/
theorem key_stored_through_link : ∃ outcome fs',
    generate linkedKeys (Path.ofString "L") someKey (some "e") (some "n") = (.ok outcome, fs') ∧
      KeyFile.load fs' (Path.ofString "keys.json") = .ok (oneDevice.put "e" ⟨"n", someKey⟩) := by
  have hok : (generate linkedKeys (Path.ofString "L") someKey (some "e") (some "n")).1.toBool =
      true := by decide +kernel
  have hfile : linkedKeys.get? [Utf8.ofString "keys.json"] =
      some (.file 0o600 oneDevice.saved) := by decide +kernel
  have hp : LeadsToFile linkedKeys (Path.ofString "L") [Utf8.ofString "keys.json"] :=
    ⟨rfl, by rfl, _, _, hfile⟩
  have hq : LeadsToFile linkedKeys (Path.ofString "keys.json") [Utf8.ofString "keys.json"] :=
    ⟨rfl, by rfl, _, _, hfile⟩
  obtain ⟨outcome, fs', hg⟩ := KeyFile.exists_eq_ok hok
  have hrun : run linkedKeys (Path.ofString "L") someKey (.generate (some "e") (some "n"))
      .unlimited = ⟨.ok outcome, fs', .unlimited⟩ := by rw [run_generate, hg]
  obtain ⟨-, -, id, manufacturer, s, hd, hmf, hl, -, hload⟩ :=
    (aliases_run_alike hp hq).2 _ _ _ _ _ _ _ (by decide +kernel) hrun
  obtain rfl : "e" = id := Option.some.inj (given_eq_some.mp hd).1
  obtain rfl : "n" = manufacturer := Option.some.inj (given_eq_some.mp hmf).1
  obtain rfl : s = oneDevice := by
    rw [(load_saved_iff hp hfile).mpr (by decide +kernel)] at hl
    exact (Except.ok.inj hl).symm
  exact ⟨outcome, fs', hg, hload.mpr (by decide +kernel)⟩

/-! ## 6. Paths that are too long -/

/-- A relative path with `./` in front of it, time and again. -/
def dotted (n : Nat) (p : Path) : Path :=
  ⟨(List.replicate n [Path.dot, Path.slash]).flatten ++ p.bytes⟩

theorem dotted_succ (n : Nat) (p : Path) :
    dotted (n + 1) p = ⟨Path.dot :: Path.slash :: (dotted n p).bytes⟩ := rfl

theorem length_dotted (n : Nat) (p : Path) :
    (dotted n p).bytes.length = 2 * n + p.bytes.length := by
  induction n with
  | zero => simp [dotted]
  | succ n ih =>
    rw [dotted_succ]
    simp only [List.length_cons]
    omega

theorem steps_dot {bytes : Bytes} (h : bytes ≠ []) :
    Path.steps ⟨Path.dot :: Path.slash :: bytes⟩ = .here :: Path.steps ⟨bytes⟩ := by
  have hsplit := Path.splitSlash_append_slash (p := [Path.dot]) (by decide) bytes
  have hends : Path.endsInSlash ⟨Path.dot :: Path.slash :: bytes⟩ =
      Path.endsInSlash ⟨bytes⟩ := by
    obtain ⟨b, rest, rfl⟩ := List.exists_cons_of_ne_nil h
    simp only [Path.endsInSlash, List.getLast?_cons_cons]
  unfold Path.steps Path.components
  rw [hends, show Path.dot :: Path.slash :: bytes = [Path.dot] ++ Path.slash :: bytes from rfl,
    hsplit]
  rfl

/-- **A relative path leads on to its file behind any number of `./`.** -/
theorem leadsToFile_dotted (hp : LeadsToFile fs p m) (hrel : p.isAbsolute = false) :
    ∀ n, LeadsToFile fs (dotted n p) m ∧ (dotted n p).isAbsolute = false
  | 0 => ⟨hp, hrel⟩
  | n + 1 => by
    obtain ⟨⟨hc, hw, hfile⟩, hrel'⟩ := leadsToFile_dotted hp hrel n
    have hne : (dotted n p).bytes ≠ [] := by
      intro hnil
      unfold checkBytes at hc
      simp [hnil] at hc
    have hcwd : fs.isDirAt fs.cwd = true := by
      obtain ⟨ks, -, hr⟩ := exists_route hw
      unfold startOf at hr
      rw [hrel', if_neg Bool.false_ne_true] at hr
      cases hs : (dotted n p).steps with
      | nil => exact absurd hs (Path.steps_ne_nil hne)
      | cons step rest =>
        rw [hs] at hr
        exact hr.isDirAt_of_cons
    refine ⟨⟨?_, ?_, hfile⟩, rfl⟩
    · have hzero : (0 : UInt8) ∉ (dotted n p).bytes := by
        intro hzero
        unfold checkBytes at hc
        simp [hzero] at hc
      rw [dotted_succ]
      unfold checkBytes
      simp [Path.dot, Path.slash, hzero]
    · unfold startOf at hw
      rw [hrel', if_neg Bool.false_ne_true] at hw
      rw [dotted_succ, steps_dot hne]
      exact (walk_here hcwd).trans hw

/-- Sixteen names, each as long as a name may be. -/
def longNames : List Path.Name :=
  (List.range 16).map fun i => List.replicate nameLimit (0x61 + UInt8.ofNat i)

/-- Directories of these names, each in the one before. -/
def deepDirs : FileSystem :=
  (List.range 16).foldl
    (fun fs n => fs.put (longNames.take (n + 1)).reverse (.dir newDirMode)) .empty

/-- A key file without devices in the innermost of them, which is the working directory and so deep
    that its path is too long; links to half of the way lead there. -/
def deepFile : FileSystem :=
  let file := deepDirs.put (Utf8.ofString "keys.json" :: longNames.reverse)
    (.file 0o600 KeyStore.empty.saved)
  let half := file.put [Utf8.ofString "A"] (.link (Path.ofNames (longNames.take 8)))
  let whole := half.put [Utf8.ofString "B"]
    (.link (Path.ofNames (Utf8.ofString "A" :: longNames.drop 8)))
  whole.withCwd longNames.reverse

/-- **Paths to one file that are not one to all operations.** Of two to the key file the one with
    2048 times `./` in front of it is too long to be opened. Of two that can be opened and not be
    resolved, since the file has too long a path of its own, the one has no temporary file beside
    it, for that would have too long a path; through the other a key is stored. -/
theorem aliases_run_apart :
    (LeadsToFile oneDeviceFile (Path.ofString "keys.json") [Utf8.ofString "keys.json"] ∧
      LeadsToFile oneDeviceFile (dotted 2048 (Path.ofString "keys.json"))
        [Utf8.ofString "keys.json"] ∧
      (run oneDeviceFile (Path.ofString "keys.json") someKey (.fetchManufacturerId (some "d"))
        .unlimited).result.toOption = some .printed ∧
      (run oneDeviceFile (dotted 2048 (Path.ofString "keys.json")) someKey
        (.fetchManufacturerId (some "d")) .unlimited).result =
          .error (.store (.unreadable (dotted 2048 (Path.ofString "keys.json")) .nameTooLong))) ∧
    ∃ m, LeadsToFile deepFile (Path.ofString "keys.json") m ∧
      LeadsToFile deepFile (Path.ofString "/B/keys.json") m ∧
      (generate deepFile (Path.ofString "keys.json") someKey (some "e") (some "n")).1.toOption =
        none ∧
      (generate deepFile (Path.ofString "/B/keys.json") someKey (some "e") (some "n")).1.toOption =
        some (.generated "e" "n" false) := by
  have hp : LeadsToFile oneDeviceFile (Path.ofString "keys.json") [Utf8.ofString "keys.json"] :=
    ⟨rfl, by rfl, _, _, get?_keyFile _⟩
  have hq := (leadsToFile_dotted hp rfl 2048).1
  have hlong : ¬(dotted 2048 (Path.ofString "keys.json")).bytes.length < pathLimit := by
    rw [length_dotted]
    decide
  have hcomplete : ¬(Operation.fetchManufacturerId (some "d")).Lacks := by
    simp [Operation.Lacks, Operation.requiredIds]
  -- the deep tree is evaluated once for all that is asked of it
  obtain ⟨hdeep, hnear, hfar, hnone, hsome⟩ :
      deepFile.get? (Utf8.ofString "keys.json" :: longNames.reverse) =
          some (.file 0o600 KeyStore.empty.saved) ∧
        (deepFile.walk true linkLimit (startOf deepFile.cwd (Path.ofString "keys.json"))
          (Path.ofString "keys.json").steps).toOption =
            some (.found (Utf8.ofString "keys.json" :: longNames.reverse)) ∧
        (deepFile.walk true linkLimit (startOf deepFile.cwd (Path.ofString "/B/keys.json"))
          (Path.ofString "/B/keys.json").steps).toOption =
            some (.found (Utf8.ofString "keys.json" :: longNames.reverse)) ∧
        (generate deepFile (Path.ofString "keys.json") someKey (some "e") (some "n")).1.toOption =
          none ∧
        (generate deepFile (Path.ofString "/B/keys.json") someKey (some "e")
          (some "n")).1.toOption = some (.generated "e" "n" false) := by
    decide +kernel
  exact ⟨⟨hp, hq, by decide +kernel,
      congrArg Reply.result (run_of_not_loaded (load_of_long hq hlong) hcomplete)⟩,
    _, ⟨rfl, eq_ok_of_toOption hnear, _, _, hdeep⟩, ⟨rfl, eq_ok_of_toOption hfar, _, _, hdeep⟩,
    hnone, hsome⟩

end Manager

end DeviceKeys
