import DeviceKeys.Proofs.FileSystem.Lookups
import DeviceKeys.Proofs.Manager.Generate
import DeviceKeys.Proofs.Store.KeyTable

/-! # What leaves the key store as it is

Only `generate` is meant to change the key store. Printing touches no file. Writing the key table
replaces a file that the caller names, and makes directories for it.

* `load_dump_iff`: the store loads as before just when neither the directories nor the table get in
  the way of the path: the table must not land in a place that the path looks up.
* **`run_keeps_load`**: the same of every operation but `generate`. `dump_changes_load` shows both
  ways in which the store changes.
-/

namespace DeviceKeys.Manager

open FileSystem
open KeyFile (oneDevice someKey eq_ok_of_toOption)

variable {fs fs' : FileSystem} {p output : Path} {key : DeviceKey} {op : Operation} {out : Output}
  {s : KeyStore}

theorem load_eq_ok_iff : load fs p = .ok s ↔ KeyFile.load fs p = .ok s := by
  constructor
  · intro h
    unfold load at h
    cases hl : KeyFile.load fs p with
    | error e =>
      rw [hl] at h
      cases h
    | ok s' =>
      rw [hl] at h
      cases h
      rfl
  · exact load_of_ok

/-! ## 1. Writing the key table -/

/-- Where a key table stands in the way of a path, no store is loaded. -/
theorem load_ne_ok_of_landed {t : KeyStore} {m : Location}
    (h : Landed fs fs' m (Utf8.ofString t.keyTable)) (hm : m ∈ fs.lookups p) :
    KeyFile.load fs' p ≠ .ok s := by
  intro hl
  rcases KeyFile.load_eq_ok hl with ⟨data, hr, hj⟩ | ⟨hr, -⟩
  · rcases h.read_on hm with hr' | hr'
    · rw [hr'] at hr
      cases hr
    · have hdata := Except.ok.inj (hr'.symm.trans hr)
      exact t.ofJson_keyTable s (hdata ▸ hj)
  · rcases h.read_on hm with hr' | hr'
    · rw [hr'] at hr
      cases hr
    · rw [hr'] at hr
      cases hr

/-- **When the store loads as before after its key table has been written**, or failed to be. -/
theorem load_dump_iff (hl : KeyFile.load fs p = .ok s) :
    KeyFile.load (dump fs p output).2 p = .ok s ↔
      KeyFile.load (fs.prepared output) p = .ok s ∧ ((dump fs p output).1.toBool = true →
        ∀ l ∈ fs.landing? output, l ∉ (fs.prepared output).lookups p) := by
  have hcases := dump_cases fs p output
  generalize dump fs p output = r at hcases ⊢
  cases hcases with
  | notLoaded hl' =>
    rw [hl'] at hl
    cases hl
  | notWritten _ hrep =>
    obtain ⟨hget, hcwd⟩ := get?_of_replace_error hrep
    have hread := read_of_agree (p := p) (hcwd.trans (grownBy_prepared fs output).cwd.symm)
      (fun x hx => (isDirAt_congr (hget x)).trans hx) fun x _ => hget x
    simp [KeyFile.load_congr hread, Except.toBool]
  | written _ hrep =>
    obtain ⟨l, name, hrep⟩ := replace_eq_ok hrep
    have hlanded := hrep.landed
    simp only [hrep.landing?_eq, Option.mem_some_iff, forall_eq']
    constructor
    · intro h
      have hm : name :: l ∉ (fs.prepared output).lookups p := fun hm =>
        load_ne_ok_of_landed hlanded hm h
      exact ⟨(KeyFile.load_congr (hlanded.read_eq hm)).symm.trans h, fun _ => hm⟩
    · rintro ⟨h, hm⟩
      exact (KeyFile.load_congr (hlanded.read_eq (hm rfl))).trans h

/-- A store that does not load leaves everything as it is. -/
theorem dump_of_not_loaded (h : ∀ s, KeyFile.load fs p ≠ .ok s) : (dump fs p output).2 = fs := by
  have hcases := dump_cases fs p output
  generalize dump fs p output = r at hcases ⊢
  cases hcases with
  | notLoaded _ => rfl
  | notWritten hl _ => exact absurd hl (h _)
  | written hl _ => exact absurd hl (h _)

/-- The directories that are made for a file leave a path that leads to a file as it is. -/
theorem load_prepared {data : Bytes} (h : fs.read p = .ok data) :
    load (fs.prepared output) p = load fs p := by
  have hread := (read_of_grownBy (grownBy_prepared fs output) h).trans h.symm
  unfold load
  rw [KeyFile.load_congr hread]

/-- Nor do they matter where none of them stands in a place that the path looks up. -/
theorem load_prepared_of_lookups
    (h : ∀ l ∈ fs.lookups p, (fs.prepared output).get? l = fs.get? l) :
    load (fs.prepared output) p = load fs p := by
  have hread := read_of_grownBy_of_lookups (grownBy_prepared fs output) h
  unfold load
  rw [KeyFile.load_congr hread]

/-! ## 2. Every operation but `generate` -/

/-- **Every operation but `generate` leaves the store as it is**, with one exception. Printing
    leaves all files as they are, and so does writing the key table of a store that does not load.
    Once the table of a store has been written, or failed to be, the path loads as before just when
    the directories made for it leave that so, and the table has not landed in a place that the path
    looks up. The directories always leave it so when the path led to a file, and the path then
    looks up the same as before; they also do when none of them stands in a place that the path
    looks up. -/
theorem run_keeps_load (hop : ∀ deviceId manufacturerId, op ≠ .generate deviceId manufacturerId) :
    (load (run fs p key op out).fs p = load fs p ↔
      ∀ output s, op = .cmakeDump output → load fs p = .ok s →
        load (fs.prepared output) p = .ok s ∧
          ((run fs p key op out).result.toBool = true →
            ∀ l ∈ fs.landing? output, l ∉ (fs.prepared output).lookups p)) ∧
      ((∀ output s, op = .cmakeDump output → load fs p ≠ .ok s) → (run fs p key op out).fs = fs) ∧
      (∀ output data, fs.read p = .ok data →
        load (fs.prepared output) p = load fs p ∧
          (fs.prepared output).lookups p = fs.lookups p) ∧
      ∀ output, (∀ l ∈ fs.lookups p, (fs.prepared output).get? l = fs.get? l) →
        load (fs.prepared output) p = load fs p := by
  refine and_assoc.mp ⟨?_, fun output data h =>
    ⟨load_prepared h, lookups_of_grownBy (grownBy_prepared fs output) h⟩,
    fun output => load_prepared_of_lookups⟩
  cases op with
  | generate deviceId manufacturerId => exact absurd rfl (hop deviceId manufacturerId)
  | exportKey deviceId => simp [run_exportKey]
  | fetchManufacturerId deviceId => simp [run_fetchManufacturerId]
  | cmakeDump output =>
    rw [run_cmakeDump]
    by_cases hl : ∃ s, KeyFile.load fs p = .ok s
    · obtain ⟨s, hl⟩ := hl
      have hiff := @load_dump_iff fs p output s hl
      refine ⟨?_, fun h => absurd (load_of_ok hl) (h output s rfl)⟩
      rw [load_of_ok hl, load_eq_ok_iff, hiff]
      constructor
      · rintro ⟨hprep, hland⟩ _ _ ⟨⟩ ⟨⟩
        exact ⟨load_of_ok hprep, hland⟩
      · intro h
        obtain ⟨hprep, hland⟩ := h output s rfl rfl
        exact ⟨load_eq_ok_iff.mp hprep, hland⟩
    · have hfs : (dump fs p output).2 = fs := dump_of_not_loaded (not_exists.mp hl)
      refine ⟨⟨fun _ _ s _ hs => absurd ⟨s, load_eq_ok_iff.mp hs⟩ hl, fun _ => ?_⟩, fun _ => hfs⟩
      simp only [hfs]

/-- The path of the key file. -/
def keysPath : Path := Path.ofString "keys.json"

/-- A table beside the key file leaves the store as it is. -/
theorem dump_keeps_one_device :
    (run oneDeviceFile keysPath someKey (.cmakeDump (Path.ofString "build/keys.h"))
      .unlimited).result.toBool = true ∧
    load (run oneDeviceFile keysPath someKey (.cmakeDump (Path.ofString "build/keys.h"))
      .unlimited).fs keysPath = .ok oneDevice := by
  have hread : oneDeviceFile.read keysPath = .ok oneDevice.saved := read_keyFile _
  have hland : ∀ l ∈ oneDeviceFile.landing? (Path.ofString "build/keys.h"),
      l ∉ oneDeviceFile.lookups keysPath := by decide +kernel
  have hload : load oneDeviceFile keysPath = .ok oneDevice :=
    load_of_ok (KeyFile.load_of_read_saved hread)
  have hop : ∀ deviceId manufacturerId, Operation.cmakeDump (Path.ofString "build/keys.h") ≠
      .generate deviceId manufacturerId := by simp
  obtain ⟨hiff, -, hdirs, -⟩ := @run_keeps_load oneDeviceFile keysPath someKey _ .unlimited hop
  refine ⟨by decide +kernel, (hiff.mpr ?_).trans hload⟩
  rintro output s hout hl
  obtain rfl := Operation.cmakeDump.inj hout
  obtain ⟨hprep, hlook⟩ := hdirs (Path.ofString "build/keys.h") _ hread
  refine ⟨hprep.trans hl, fun _ => ?_⟩
  rw [hlook]
  exact hland

/-- A table in the place of the key file leaves no store. A directory that is made for a table can
    open a way to a key file. -/
theorem dump_changes_load :
    load oneDeviceFile keysPath = .ok oneDevice ∧
      load (run oneDeviceFile keysPath someKey (.cmakeDump keysPath) .unlimited).fs keysPath ≠
        .ok oneDevice ∧
      load oneDeviceFile pathByNew = .ok KeyStore.empty ∧
      load (run oneDeviceFile pathByNew someKey (.cmakeDump (Path.ofString "new/keys.h"))
        .unlimited).fs pathByNew ≠ .ok KeyStore.empty := by
  have hload : KeyFile.load oneDeviceFile keysPath = .ok oneDevice :=
    KeyFile.load_of_read_saved (read_keyFile _)
  have hdump : (dump oneDeviceFile keysPath keysPath).1.toBool = true := by decide +kernel
  have hland : ∃ l ∈ oneDeviceFile.landing? keysPath,
      l ∈ (oneDeviceFile.prepared keysPath).lookups keysPath := by
    have hland : oneDeviceFile.landing? keysPath = some [Utf8.ofString "keys.json"] := by
      decide +kernel
    exact ⟨_, hland, by decide +kernel⟩
  have hnone : (KeyFile.load oneDeviceFile pathByNew).toOption = some KeyStore.empty := by
    decide +kernel
  have hread : ((oneDeviceFile.prepared (Path.ofString "new/keys.h")).read pathByNew).toOption =
      some oneDevice.saved := by decide +kernel
  have hnone := eq_ok_of_toOption hnone
  have hread := eq_ok_of_toOption hread
  refine ⟨load_of_ok hload, fun h => ?_, load_of_ok hnone, fun h => ?_⟩
  · simp only [run_cmakeDump, load_eq_ok_iff] at h
    obtain ⟨l, hl, hlook⟩ := hland
    exact ((load_dump_iff hload).mp h).2 hdump l hl hlook
  · simp only [run_cmakeDump, load_eq_ok_iff] at h
    obtain ⟨hempty, -⟩ := (load_dump_iff hnone).mp h
    have hsome : oneDevice.isEmpty = false := by decide +kernel
    rw [KeyFile.load_of_read_saved hread] at hempty
    rw [Except.ok.inj hempty] at hsome
    cases hsome

end DeviceKeys.Manager
