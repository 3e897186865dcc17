import DeviceKeys.Proofs.Config.Layers
import DeviceKeys.Proofs.FileSystem.Joining

/-! # A settings file that is there

Whether a project has a settings file is asked by its path, links followed, and not by what has the
name in the root.

* `Heeds`: the result of loading the settings comes from the file. It is the settings of its
  document, with the variables put over them, or a fault of the file. It is so just when the path
  of the file leads somewhere (`heeds_iff`).
* `load_heeds_entry`: where something has the name of the settings file in the root of a project,
  the result comes from it, unless the path is too long or a link leads nowhere. Then the defaults
  stand in for it, as if there were none.
-/

namespace DeviceKeys.Config

open FileSystem (pathLimit)
open DeviceKeys.Path (IsName)

variable {fs : FileSystem} {root : Path} {env : Environment} {l : Location}

/-! ## 1. By its path -/

/-- The result comes from the settings file of a project. -/
inductive Heeds (fs : FileSystem) (root : Path) (env : Environment) :
    Except ConfigFault Config → Prop
  | settings {text : List Char} {doc : Toml.Table} {c : Config}
      (read : fs.read (root.join fileName) = .ok (Utf8.encode text))
      (toml : Toml.document? text = some doc) (settings : ofDocument doc = some c) :
      Heeds fs root env (.ok (c.override env))
  | unreadable (fault : IoFault) :
      Heeds fs root env (.error (.unreadable (root.join fileName) fault))
  | malformed : Heeds fs root env (.error (.malformed (root.join fileName)))

theorem load_of_absent (h : fs.exists? (root.join fileName) = false) :
    load fs root env = .ok (default.override env) := load_eq (.noFile h)

theorem heeds_iff :
    Heeds fs root env (load fs root env) ↔ fs.exists? (root.join fileName) = true := by
  constructor
  · intro h
    cases hfound : fs.exists? (root.join fileName) with
    | true => rfl
    | false =>
      generalize hload : load fs root env = ended at h
      cases h with
      | settings hread =>
        obtain ⟨m, mode, hm, -⟩ := FileSystem.read_eq_ok_iff.mp hread
        cases hfound.symm.trans (FileSystem.exists?_iff.mpr ⟨m, hm⟩)
      | unreadable | malformed => cases hload.symm.trans (load_of_absent hfound)
  · intro hfound
    have hends := load_loads fs root env
    generalize load fs root env = ended at hends ⊢
    cases hends with
    | noFile habsent => cases hfound.symm.trans habsent
    | unreadable => exact .unreadable _
    | malformed => exact .malformed
    | file hreads hdoc hc => exact .settings hreads.read hdoc hc

/-! ## 2. By its name in the root -/

theorem isName_fileName : IsName fileName.bytes := by decide

theorem length_fileName_le : fileName.bytes.length ≤ nameLimit := by decide

theorem zero_notMem_fileName : (0 : UInt8) ∉ fileName.bytes := by decide

/-- **What has the name of the settings file in a root counts**, unless its path is too long to be
    looked at, or it is a link that leads nowhere; then, and if nothing has the name, the defaults
    stand in for the file. -/
theorem load_heeds_entry (hroot : fs.find root = .ok l) (hdir : fs.isDirAt l = true) :
    (fs.get? (fileName.bytes :: l) = none → load fs root env = .ok (default.override env)) ∧
    ∀ e, fs.get? (fileName.bytes :: l) = some e →
      (Heeds fs root env (load fs root env) ↔
        (root.join fileName).bytes.length < pathLimit ∧
          ∀ target, e = .link target → ∃ m, fs.find (root.join fileName) = .ok m) ∧
      (¬Heeds fs root env (load fs root env) → load fs root env = .ok (default.override env)) := by
  refine ⟨fun hnone => ?_, fun e he => ⟨?_, fun hnot => ?_⟩⟩
  · exact load_of_absent (FileSystem.exists?_join_of_none hroot isName_fileName
      zero_notMem_fileName hdir length_fileName_le hnone)
  · rw [heeds_iff, FileSystem.exists?_iff]
    constructor
    · rintro ⟨m, hm⟩
      obtain ⟨hc, -⟩ := FileSystem.find_eq_ok_iff.mp hm
      exact ⟨(FileSystem.checkPath_eq_ok_iff.mp hc).2, fun _ _ => ⟨m, hm⟩⟩
    · rintro ⟨hshort, hlink⟩
      by_cases htarget : ∃ target, e = .link target
      · obtain ⟨target, htarget⟩ := htarget
        exact hlink target htarget
      · exact ⟨_, FileSystem.find_join_of_entry hroot isName_fileName zero_notMem_fileName hdir
          length_fileName_le he (fun target h => htarget ⟨target, h⟩) hshort⟩
  · exact load_of_absent (by simpa [heeds_iff] using hnot)

/-- A root whose settings file is a link to a file beside it. -/
def linkedSettings : FileSystem :=
  (FileSystem.empty.put [Utf8.ofString "c"]
    (.file 0o644 (Utf8.ofString "keystore.path = \"k\""))).put [fileName.bytes]
      (.link (Path.ofString "c"))

/-- The settings behind a link count. -/
theorem load_heeds_link : linkedSettings.find (Path.ofString "/") = .ok [] ∧
    Heeds linkedSettings (Path.ofString "/") ⟨[]⟩
      (load linkedSettings (Path.ofString "/") ⟨[]⟩) := by
  have hroot : linkedSettings.find (Path.ofString "/") = .ok [] := by rfl
  have hlink : linkedSettings.get? [fileName.bytes] = some (.link (Path.ofString "c")) := by
    decide +kernel
  have hfind : linkedSettings.find ((Path.ofString "/").join fileName) =
      .ok [Utf8.ofString "c"] := by rfl
  refine ⟨hroot, (((load_heeds_entry hroot rfl).2 _ hlink).1).mpr ⟨by decide, ?_⟩⟩
  exact fun _ _ => ⟨_, hfind⟩

/-- A root whose settings file is a link to itself. -/
def loopedSettings : FileSystem :=
  FileSystem.empty.put [fileName.bytes] (.link fileName)

/-- A settings file that cannot be read, since it is a link to itself, is passed over. -/
theorem load_passes_loop :
    loopedSettings.isDir (Path.ofString "/") = true ∧
    loopedSettings.get? [fileName.bytes] = some (.link fileName) ∧
    loopedSettings.read ((Path.ofString "/").join fileName) = .error .tooManyLinks ∧
    load loopedSettings (Path.ofString "/") ⟨[]⟩ = .ok default ∧
    ¬Heeds loopedSettings (Path.ofString "/") ⟨[]⟩
      (load loopedSettings (Path.ofString "/") ⟨[]⟩) := by
  have habsent : loopedSettings.exists? ((Path.ofString "/").join fileName) = false := by
    decide +kernel
  refine ⟨by decide +kernel, by decide +kernel, by rfl, load_of_absent habsent, ?_⟩
  rw [heeds_iff, habsent]
  decide

end DeviceKeys.Config
