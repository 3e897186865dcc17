import DeviceKeys.Proofs.KeyFile
import DeviceKeys.Proofs.Manager.Run

/-! # What storing a key keeps

`generate` loads the store, adds a record and replaces the file. `generate_keeps_file_replaced` says
when the file that is replaced is the one whose store was loaded: just when the path led to a file.
If it led to none, the directories that are made for it can open a way to a file that stood there
all along, whose devices are then lost (`generate_loses_one_device`).
-/

namespace DeviceKeys.Manager

open FileSystem
open KeyFile (exists_eq_ok oneDevice someKey)

variable {fs fs' : FileSystem} {p : Path} {key : DeviceKey}
  {deviceId manufacturerId : Option String} {outcome : Outcome}

/-- When a key has been stored, both ids were given, and the loaded store was saved with the
    record. -/
theorem generate_eq_ok (h : generate fs p key deviceId manufacturerId = (.ok outcome, fs')) :
    ∃ id manufacturer s, given deviceId = some id ∧ given manufacturerId = some manufacturer ∧
      KeyFile.load fs p = .ok s ∧
      KeyFile.save fs p (s.put id ⟨manufacturer, key⟩) = (.ok (), fs') ∧
      outcome = .generated id manufacturer (s.get? id).isSome := by
  have hcases := generate_cases fs p key deviceId manufacturerId
  rw [h] at hcases
  cases hcases with
  | stored hd hm hl hs => exact ⟨_, _, _, hd, hm, hl, hs, rfl⟩

/-- **What becomes of the file that `generate` replaces.** It is the one old entry that is changed,
    and it holds a store with the new record. That is the store it held before, with the new record,
    just when the path led to a file, or that store held no other device. -/
theorem generate_keeps_file_replaced
    (h : generate fs p key deviceId manufacturerId = (.ok outcome, fs')) :
    ∃ id manufacturer l mode s, given deviceId = some id ∧
      given manufacturerId = some manufacturer ∧ fs.landing? p = some l ∧
      (∀ x e, x ≠ l → fs.get? x = some e → fs'.get? x = some e) ∧
      fs'.get? l = some (.file mode s.saved) ∧ KeyStore.ofJson s.saved = .ok s ∧
      s.get? id = some ⟨manufacturer, key⟩ ∧
      ∀ mode data t, fs.get? l = some (.file mode data) → KeyStore.ofJson data = .ok t →
        (s = t.put id ⟨manufacturer, key⟩ ↔
          fs.read p ≠ .error .noEntry ∨ ∀ other, other ≠ id → t.get? other = none) := by
  obtain ⟨id, manufacturer, loaded, hd, hm, hl, hs, -⟩ := generate_eq_ok h
  obtain ⟨l, name, hrep⟩ := replace_eq_ok (KeyFile.save_eq_ok_iff.mp hs)
  obtain ⟨mode, hmode⟩ := hrep.get?_landing
  refine ⟨id, manufacturer, name :: l, mode, _, hd, hm, hrep.landing?_eq, fun x e hx he => ?_,
    hmode, KeyStore.ofJson_saved _, by rw [KeyStore.get?_put, if_pos rfl],
    fun mode' data t hfile ht => ?_⟩
  · rw [hrep.get?_other hx]
    exact (grownBy_prepared fs p).kept he
  · rcases KeyFile.load_eq_ok hl with ⟨read, hr, hj⟩ | ⟨hr, rfl⟩
    · -- what was read is what the file held
      obtain rfl := hrep.eq_of_read hr hfile
      obtain rfl : t = loaded := by
        rw [ht] at hj
        exact Except.ok.inj hj
      simp [hr]
    · rw [KeyStore.put_eq_put_iff]
      simp only [KeyStore.get?_empty, hr, ne_eq, not_true_eq_false, false_or]
      exact forall₂_congr fun other _ => eq_comm

theorem get?_keyFile (data : Bytes) :
    (FileSystem.empty.put [Utf8.ofString "keys.json"] (.file 0o600 data)).get?
      [Utf8.ofString "keys.json"] = some (.file 0o600 data) := by
  have hfits : FileSystem.empty.Fits [Utf8.ofString "keys.json"] (.file 0o600 data) := by
    unfold Fits
    exact ⟨rfl, nofun, by decide⟩
  exact (get?_put hfits _).trans (if_pos rfl)

theorem read_keyFile (data : Bytes) :
    (FileSystem.empty.put [Utf8.ofString "keys.json"] (.file 0o600 data)).read
      (Path.ofString "keys.json") = .ok data := by
  have hfind : (FileSystem.empty.put [Utf8.ofString "keys.json"] (.file 0o600 data)).find
      (Path.ofString "keys.json") = .ok [Utf8.ofString "keys.json"] := by rfl
  simp only [FileSystem.read, hfind, get?_keyFile, bind, Except.bind]

/-- The key file with the store of one device. -/
def oneDeviceFile : FileSystem :=
  FileSystem.empty.put [Utf8.ofString "keys.json"] (.file 0o600 oneDevice.saved)

/-- A second device joins the first one. -/
theorem generate_joins_one_device : ∃ outcome fs' mode,
    generate oneDeviceFile (Path.ofString "keys.json") someKey (some "e") (some "n") =
      (.ok outcome, fs') ∧
    fs'.get? [Utf8.ofString "keys.json"] =
      some (.file mode (oneDevice.put "e" ⟨"n", someKey⟩).saved) := by
  have hok : (generate oneDeviceFile (Path.ofString "keys.json") someKey (some "e")
      (some "n")).1.toBool = true := by decide +kernel
  have hread : oneDeviceFile.read (Path.ofString "keys.json") = .ok oneDevice.saved :=
    read_keyFile _
  have hland : oneDeviceFile.landing? (Path.ofString "keys.json") =
      some [Utf8.ofString "keys.json"] := by decide +kernel
  have hfile : oneDeviceFile.get? [Utf8.ofString "keys.json"] =
      some (.file 0o600 oneDevice.saved) := get?_keyFile _
  obtain ⟨outcome, fs', hg⟩ := exists_eq_ok hok
  obtain ⟨id, manufacturer, l, mode, s, hd, hm, hl, -, hmode, -, -, hkept⟩ :=
    generate_keeps_file_replaced hg
  obtain rfl : "e" = id := Option.some.inj (given_eq_some.mp hd).1
  obtain rfl : "n" = manufacturer := Option.some.inj (given_eq_some.mp hm).1
  obtain rfl := Option.some.inj (hland.symm.trans hl)
  refine ⟨outcome, fs', mode, hg, ?_⟩
  rw [hmode, (hkept _ _ _ hfile (KeyStore.ofJson_saved _)).mpr (.inl fun hnone => ?_)]
  rw [hnone] at hread
  cases hread

/-- The way to the key file by a directory that is not there. -/
def pathByNew : Path := Path.ofString "new/../keys.json"

/-- A device that was in the file before is lost. -/
theorem generate_loses_one_device :
    oneDeviceFile.get? [Utf8.ofString "keys.json"] =
        some (.file 0o600 oneDevice.saved) ∧
      ∃ outcome fs', generate oneDeviceFile pathByNew someKey (some "e") (some "n") =
          (.ok outcome, fs') ∧
        fs'.get? [Utf8.ofString "keys.json"] =
          some (.file 0o600 (KeyStore.empty.put "e" ⟨"n", someKey⟩).saved) := by
  have hok : (generate oneDeviceFile pathByNew someKey (some "e") (some "n")).1.toBool = true := by
    decide +kernel
  have hfile : (generate oneDeviceFile pathByNew someKey (some "e") (some "n")).2.get?
      [Utf8.ofString "keys.json"] =
        some (.file 0o600 (KeyStore.empty.put "e" ⟨"n", someKey⟩).saved) := by
    decide +kernel
  obtain ⟨outcome, fs', hg⟩ := exists_eq_ok hok
  rw [hg] at hfile
  exact ⟨get?_keyFile _, outcome, fs', hg, hfile⟩

end DeviceKeys.Manager
