import DeviceKeys.KeyFile
import DeviceKeys.Proofs.FileSystem.Reading
import DeviceKeys.Proofs.Store.Document

/-! # A saved store loads again

* `load_saved`: what `KeyFile.load` gives after `KeyFile.save` has succeeded on the same path. It is
  the store, unless the path is too long to be opened or the saving has severed it.
* `keeps_what_is_saved`: both texts of a store read back; a saved store loads again just under those
  two conditions; and saving a store over its own file leaves the bytes of the file as they are.
-/

namespace DeviceKeys.KeyFile

open FileSystem

variable {fs fs' : FileSystem} {p : Path} {s : KeyStore}

/-! ## 1. What the two operations come down to -/

/-- A result that is known to be one, by its value. -/
theorem exists_eq_ok {ε α β : Type} {r : Except ε α × β} (h : r.1.toBool = true) :
    ∃ a b, r = (.ok a, b) := by
  obtain ⟨e | a, b⟩ := r
  · cases h
  · exact ⟨a, b, rfl⟩

theorem eq_ok_of_toOption {ε α : Type} {x : Except ε α} {a : α} (h : x.toOption = some a) :
    x = .ok a := by
  cases x with
  | error e => cases h
  | ok b => exact congrArg Except.ok (Option.some.inj h)

theorem exists_of_toOption {ε α β : Type} {r : Except ε α × β} {a : α}
    (h : r.1.toOption = some a) : ∃ b, r = (.ok a, b) := by
  obtain ⟨x, b⟩ := r
  exact ⟨b, congrArg (·, b) (eq_ok_of_toOption h)⟩

theorem save_eq_ok_iff :
    save fs p s = (.ok (), fs') ↔ fs.replace p s.saved = (.ok (), fs') := by
  unfold save
  rcases fs.replace p s.saved with ⟨e | u, fs₁⟩
  · constructor <;> (intro h; cases h)
  · constructor <;> (intro h; cases h; rfl)

theorem replace_error_of_save {e : StoreFault} (h : save fs p s = (.error e, fs')) :
    ∃ fault, e = .unwritable p fault ∧ fs.replace p s.saved = (.error fault, fs') := by
  unfold save at h
  rcases hr : fs.replace p s.saved with ⟨fault | u, fs₁⟩
  · rw [hr] at h
    cases h
    exact ⟨fault, rfl, rfl⟩
  · rw [hr] at h
    cases h

theorem save_of_replace_error {fault : IoFault} (h : fs.replace p s.saved = (.error fault, fs')) :
    save fs p s = (.error (.unwritable p fault), fs') := by
  unfold save
  rw [h]
  rfl

/-- What a path loads as is what it reads as. -/
theorem load_congr {fs fs' : FileSystem} (h : fs'.read p = fs.read p) : load fs' p = load fs p := by
  unfold load
  rw [h]

theorem load_of_read {data : Bytes} (h : fs.read p = .ok data) :
    load fs p = (KeyStore.ofJson data).mapError (.corrupt p) := by
  unfold load
  rw [h]

theorem load_of_refusal {data : Bytes} {refusal : Json.Refusal} (h : fs.read p = .ok data)
    (hj : KeyStore.ofJson data = .error refusal) :
    load fs p = .error (.corrupt p refusal) := by
  rw [load_of_read h, hj]
  rfl

theorem load_of_read_saved (h : fs.read p = .ok s.saved) : load fs p = .ok s := by
  rw [load_of_read h, KeyStore.ofJson_saved]
  rfl

theorem load_of_noEntry (h : fs.read p = .error .noEntry) : load fs p = .ok KeyStore.empty := by
  unfold load
  rw [h]

theorem load_of_fault {e : IoFault} (hne : e ≠ .noEntry) (h : fs.read p = .error e) :
    load fs p = .error (.unreadable p e) := by
  unfold load
  rw [h]
  cases e <;> first | rfl | exact absurd rfl hne

/-- A store is loaded from a file that holds it, or it is the empty one and there is no file. -/
theorem load_eq_ok (h : load fs p = .ok s) :
    (∃ data, fs.read p = .ok data ∧ KeyStore.ofJson data = .ok s) ∨
      fs.read p = .error .noEntry ∧ s = KeyStore.empty := by
  cases hr : fs.read p with
  | ok data =>
    rw [load_of_read hr] at h
    cases hj : KeyStore.ofJson data with
    | error e => rw [hj] at h; cases h
    | ok s' =>
      rw [hj] at h
      cases h
      exact .inl ⟨data, rfl, hj⟩
  | error e =>
    by_cases hne : e = .noEntry
    · subst hne
      rw [load_of_noEntry hr] at h
      cases h
      exact .inr ⟨rfl, rfl⟩
    · rw [load_of_fault hne hr] at h
      cases h

/-- A store is not loaded because its file cannot be read, though there is one, or because what the
    file holds is no store. -/
theorem load_eq_error {e : StoreFault} (h : load fs p = .error e) :
    (∃ fault, fs.read p = .error fault ∧ fault ≠ .noEntry ∧ e = .unreadable p fault) ∨
      ∃ data refusal, fs.read p = .ok data ∧ KeyStore.ofJson data = .error refusal ∧
        e = .corrupt p refusal := by
  cases hr : fs.read p with
  | ok data =>
    rw [load_of_read hr] at h
    cases hj : KeyStore.ofJson data with
    | ok s => rw [hj] at h; cases h
    | error refusal =>
      rw [hj] at h
      cases h
      exact .inr ⟨data, refusal, rfl, hj, rfl⟩
  | error fault =>
    by_cases hne : fault = .noEntry
    · rw [load_of_noEntry (hne ▸ hr)] at h
      cases h
    · rw [load_of_fault hne hr] at h
      cases h
      exact .inl ⟨fault, rfl, hne, rfl⟩

/-! ## 2. After a save -/

/-- **What loads after a store has been saved.** -/
theorem load_saved (h : save fs p s = (.ok (), fs')) : load fs' p =
    if pathLimit ≤ p.bytes.length then .error (.unreadable p .nameTooLong)
    else if fs.severs p = true then .error (.unreadable p .notDirectory) else .ok s := by
  obtain ⟨l, name, hrep⟩ := replace_eq_ok (save_eq_ok_iff.mp h)
  have hread := hrep.read_eq
  split at hread
  · rename_i hlen
    rw [if_pos hlen]
    exact load_of_fault (by decide) hread
  rename_i hlen
  rw [if_neg hlen]
  split at hread
  · rename_i hsev
    rw [if_pos hsev]
    exact load_of_fault (by decide) hread
  · rename_i hsev
    rw [if_neg hsev]
    exact load_of_read_saved hread

theorem load_saved_iff (h : save fs p s = (.ok (), fs')) :
    load fs' p = .ok s ↔ p.bytes.length < pathLimit ∧ fs.severs p = false := by
  rw [load_saved h]
  split
  · rename_i hlen
    constructor
    · intro h; cases h
    · rintro ⟨hlt, -⟩; omega
  split
  · rename_i hlen hsev
    simp [hsev]
  · rename_i hlen hsev
    simpa [hsev] using hlen

/-- A path from which a store is loaded is short enough to be opened. -/
theorem length_lt_of_load (h : load fs p = .ok s) : p.bytes.length < pathLimit := by
  cases hc : checkPath p with
  | ok u => exact (checkPath_eq_ok_iff.mp hc).2
  | error e =>
    have hr : fs.read p = .error e := read_of_checkPath_error hc
    by_cases hne : e = .noEntry
    · rw [bytes_of_checkPath_noEntry (hne ▸ hc)]
      decide
    · rw [load_of_fault hne hr] at h
      cases h

/-- A path that leads to a file is not too long, and no save severs it. -/
theorem conditions_of_read {data : Bytes} (h : fs.read p = .ok data) :
    p.bytes.length < pathLimit ∧ fs.severs p = false := by
  obtain ⟨l, mode, hf, -⟩ := read_eq_ok_iff.mp h
  exact ⟨(checkPath_eq_ok_iff.mp (find_eq_ok_iff.mp hf).1).2, severs_eq_false_of_read h⟩

/-- A path that is not too long and was not severed reads as the saved form. -/
theorem read_saved (h : save fs p s = (.ok (), fs')) (hlen : p.bytes.length < pathLimit)
    (hsev : fs.severs p = false) : fs'.read p = .ok s.saved := by
  obtain ⟨l, name, hrep⟩ := replace_eq_ok (save_eq_ok_iff.mp h)
  rw [hrep.read_eq, if_neg (Nat.not_le.mpr hlen), hsev]
  rfl

/-- Saving, whether it succeeds or fails, keeps the bytes of a file that holds the same store in
    the saved form. -/
theorem read_saved_again (h : fs.read p = .ok s.saved) :
    (save fs p s).2.read p = .ok s.saved := by
  rcases hsave : save fs p s with ⟨e | u, fs'⟩
  · obtain ⟨fault, -, hrep⟩ := replace_error_of_save hsave
    exact read_of_grownBy (grownBy_of_replace_error hrep) h
  · obtain ⟨hlen, hsev⟩ := conditions_of_read h
    exact read_saved hsave hlen hsev

/-! ## 3. The round trip -/

/-- **A store survives its texts and its file.** The compact text, and the pretty text with a line
    feed, read back as the store. After a save that succeeds the same path loads the store just
    when it is short enough to be opened and the save has not severed it. A file that holds the
    saved form loads as the store, and saving that store again leaves its bytes as they are. -/
theorem keeps_what_is_saved (fs : FileSystem) (p : Path) (s : KeyStore) :
    KeyStore.ofJson (Utf8.ofString s.compact) = .ok s ∧
      KeyStore.ofJson (Utf8.ofString s.pretty ++ [0x0A]) = .ok s ∧
      (∀ fs', save fs p s = (.ok (), fs') →
        (load fs' p = .ok s ↔ p.bytes.length < pathLimit ∧ fs.severs p = false)) ∧
      (fs.read p = .ok s.saved → load fs p = .ok s ∧ (save fs p s).2.read p = .ok s.saved) := by
  refine ⟨s.ofJson_compact, ?_, fun fs' h => load_saved_iff h, fun h =>
    ⟨load_of_read_saved h, read_saved_again h⟩⟩
  have hsaved : Utf8.ofString s.pretty ++ [0x0A] = s.saved := by
    unfold Utf8.ofString KeyStore.pretty KeyStore.saved
    rw [String.toList_ofList, Utf8.encode_append]
    rfl
  rw [hsaved]
  exact s.ofJson_saved

/-- A file system that holds nothing but the link `L` to the missing `x`. -/
def danglingLink : FileSystem :=
  FileSystem.empty.put [Utf8.ofString "L"] (.link (Path.ofString "x"))

/-- A way to the link `L` that passes `L` itself. -/
def pathThroughLink : Path := Path.ofString "x/../L/../L"

/-- A key to be stored. -/
def someKey : DeviceKey := ⟨List.replicate keyLength 7, rfl⟩

/-- The store of one device. -/
def oneDevice : KeyStore := KeyStore.empty.put "d" ⟨"m", someKey⟩

/-- A store that was saved and does not load: the new file stands where the link was that leads on
    to it. -/
theorem saved_store_does_not_load :
    ∃ fs', save danglingLink pathThroughLink oneDevice = (.ok (), fs') ∧
      load fs' pathThroughLink = .error (.unreadable pathThroughLink .notDirectory) := by
  have hok : (save danglingLink pathThroughLink oneDevice).1.toBool = true := by decide +kernel
  have hlen : ¬ pathLimit ≤ pathThroughLink.bytes.length := by decide +kernel
  have hsev : danglingLink.severs pathThroughLink = true := by decide +kernel
  obtain ⟨u, fs', hsave⟩ := exists_eq_ok hok
  exact ⟨fs', hsave, by rw [load_saved hsave, if_neg hlen, if_pos hsev]⟩

end DeviceKeys.KeyFile
