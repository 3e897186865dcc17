import DeviceKeys.Proofs.FileSystem.Alike
import DeviceKeys.Proofs.KeyFile
import DeviceKeys.Proofs.Manager.Generate
import DeviceKeys.Proofs.OutputMap
import DeviceKeys.Store.Written

/-! # Keys show nowhere but where they are exported

* `SameDevices`: two stores hold the same devices with the same manufacturer ids, whatever the keys.
* `run_tells_no_key`: an operation ends in the same way on both, with the same text for diagnostics
  and in trees that are alike, and but for `exportKey` it prints the same.
-/

namespace DeviceKeys

/-! ## 1. Stores -/

/-- The text for diagnostics shows of a record the manufacturer id only. -/
theorem KeyRecord.debug_congr {r r' : KeyRecord} (h : r'.manufacturerId = r.manufacturerId) :
    r'.debug = r.debug := by
  unfold KeyRecord.debug DeviceKey.redacted
  rw [h]

/-- The stores hold the same devices with the same manufacturer ids. -/
def SameDevices (s s' : KeyStore) : Prop :=
  s'.toList.map (fun e => (e.1, e.2.manufacturerId)) =
    s.toList.map (fun e => (e.1, e.2.manufacturerId))

namespace SameDevices

variable {s s' : KeyStore} (h : SameDevices s s')
include h

theorem size_eq : s'.size = s.size := by
  simpa [KeyStore.size, KeyStore.toList] using congrArg List.length h

theorem manufacturer_eq (id : String) :
    (s'.get? id).map (·.manufacturerId) = (s.get? id).map (·.manufacturerId) := by
  have hfind (entries : List (String × KeyRecord)) : (findEntry id entries).map (·.manufacturerId) =
      (entries.map fun e => (e.1, e.2.manufacturerId)).lookup id := by
    induction entries with
    | nil => rfl
    | cons e rest ih =>
      unfold findEntry
      by_cases hid : id = e.1
      · simp [hid]
      · have hne : (id == e.1) = false := by simpa using hid
        simp [hid, ih, List.lookup_cons, hne]
  unfold KeyStore.get?
  rw [hfind, hfind]
  exact congrArg (List.lookup id) h

theorem debug_eq : s'.debug = s.debug := by
  have hshown (entries : List (String × KeyRecord)) :
      (entries.map fun e => Text.quote e.1 ++ ": " ++ e.2.debug) =
        (entries.map fun e => (e.1, e.2.manufacturerId)).map fun e =>
          Text.quote e.1 ++ ": " ++ KeyRecord.debug ⟨e.2, KeyFile.someKey⟩ := by
    rw [List.map_map]
    exact List.map_congr_left fun e _ => congrArg (Text.quote e.1 ++ ": " ++ ·)
      (KeyRecord.debug_congr rfl)
  unfold KeyStore.debug
  rw [hshown s'.entries, hshown s.entries]
  unfold SameDevices KeyStore.toList at h
  rw [h]

end SameDevices

/-! ## 2. What is printed of a key -/

/-- Nothing of a byte but whether it is a line feed. -/
def veil (b : UInt8) : UInt8 := if b = 0x0A then 0x0A else 0

theorem veil_eq_iff (b : UInt8) : veil b = 0x0A ↔ b = 0x0A := by
  unfold veil
  split
  · simp [*]
  · simp [*]

theorem veil_hexDigit : ∀ n : Nat, n < 16 → veil (UInt8.ofNat (hexDigit n).toNat) = 0 := by
  decide

theorem map_veil_hexPairs (bs : Bytes) : (Utf8.encode (bs.flatMap hexPair)).map veil =
    List.replicate (2 * bs.length) 0 := by
  induction bs with
  | nil => rfl
  | cons b bs ih =>
    have hb := b.toNat_lt
    rw [List.flatMap_cons, Utf8.encode_append, List.map_append, ih, encode_hexPair]
    simp only [List.map_cons, List.map_nil]
    rw [veil_hexDigit _ (by omega), veil_hexDigit _ (by omega)]
    rfl

namespace Manager

open FileSystem

variable {fs fs' : FileSystem} {p : Path} {key key' : DeviceKey} {s s' : KeyStore} {out : Output}
  {deviceId manufacturerId : Option String}

/-- All keys are printed in the same count of bytes, and end no line before their end. -/
theorem map_veil_keyPieces (record : KeyRecord) :
    (keyPieces record).map (List.map veil) = [List.replicate (2 * keyLength) 0, [0x0A]] := by
  unfold keyPieces DeviceKey.hexChars
  simp only [List.map_cons, List.map_nil, map_veil_hexPairs, record.key.length_eq]
  rfl

/-! ## 3. Operations on stores of the same devices -/

/-- Two key store files at a path, in trees that are alike, hold the same devices. -/
structure SameStores (fs fs' : FileSystem) (p : Path) (s s' : KeyStore) : Prop where
  alike : Alike fs fs'
  loaded : KeyFile.load fs p = .ok s
  loaded' : KeyFile.load fs' p = .ok s'
  same : SameDevices s s'

/-- A key store file is never empty, nor is a key table. -/
theorem saved_ne_nil (s : KeyStore) : s.saved ≠ [] := by
  unfold KeyStore.saved
  rw [Utf8.encode_append]
  exact List.append_ne_nil_of_right_ne_nil _ (by decide)

theorem ofString_keyTable_ne_nil (s : KeyStore) : Utf8.ofString s.keyTable ≠ [] := by
  unfold KeyStore.keyTable
  rw [Utf8.ofString_append]
  exact List.append_ne_nil_of_right_ne_nil _ (by decide)

theorem save_alike (h : Alike fs fs') (p : Path) (s s' : KeyStore) :
    AlikeAfter (KeyFile.save fs p s) (KeyFile.save fs' p s') := by
  have hdata : s'.saved = [] ↔ s.saved = [] := by simp [saved_ne_nil]
  obtain ⟨r, fs₁, fs₁', hrep, hrep', halike⟩ := (h.replace p hdata).exists_eq
  unfold KeyFile.save
  rw [hrep, hrep']
  exact ⟨rfl, halike⟩

namespace SameStores

variable (h : SameStores fs fs' p s s')
include h

theorem generate (key key' : DeviceKey) (deviceId manufacturerId : Option String) :
    AlikeAfter (generate fs p key deviceId manufacturerId)
      (generate fs' p key' deviceId manufacturerId) := by
  unfold Manager.generate
  split
  · rename_i id manufacturer hd hm
    have hprevious : (s'.get? id).isSome = (s.get? id).isSome := by
      simpa using congrArg Option.isSome (h.same.manufacturer_eq id)
    simp only [load_of_ok h.loaded, load_of_ok h.loaded', KeyStore.insert, hprevious]
    obtain ⟨r, fs₁, fs₁', hsave, hsave', halike⟩ := (save_alike h.alike p
      (s.put id ⟨manufacturer, key⟩) (s'.put id ⟨manufacturer, key'⟩)).exists_eq
    rw [hsave, hsave']
    cases r <;> exact ⟨rfl, halike⟩
  · exact ⟨rfl, h.alike⟩

theorem dump (output : Path) : AlikeAfter (dump fs p output) (dump fs' p output) := by
  unfold Manager.dump
  simp only [load_of_ok h.loaded, load_of_ok h.loaded', h.same.size_eq]
  have hdata : Utf8.ofString s'.keyTable = [] ↔ Utf8.ofString s.keyTable = [] := by
    simp [ofString_keyTable_ne_nil]
  obtain ⟨r, fs₁, fs₁', hrep, hrep', halike⟩ := (h.alike.replace output hdata).exists_eq
  rw [hrep, hrep']
  cases r <;> exact ⟨rfl, halike⟩

/-- What is selected is the same but for the key: it is missing in both stores, or has the same
    manufacturer id. -/
theorem selected (deviceId : Option String) : (∃ fault, selected fs p deviceId = .error fault ∧
      selected fs' p deviceId = .error fault) ∨
    ∃ record record', selected fs p deviceId = .ok record ∧ selected fs' p deviceId = .ok record' ∧
      record'.manufacturerId = record.manufacturerId := by
  cases hd : given deviceId with
  | none => exact .inl ⟨_, selected_of_missing hd, selected_of_missing hd⟩
  | some id =>
    rw [selected_of_loaded hd h.loaded, selected_of_loaded hd h.loaded']
    have hsame := h.same.manufacturer_eq id
    unfold recordOf
    cases hr : s.get? id with
    | none =>
      rw [hr, Option.map_none, Option.map_eq_none_iff] at hsame
      rw [hsame]
      exact .inl ⟨_, rfl, rfl⟩
    | some record =>
      rw [hr, Option.map_some, Option.map_eq_some_iff] at hsame
      obtain ⟨record', hr', hmanufacturer⟩ := hsame
      rw [hr']
      exact .inr ⟨record, record', rfl, rfl, hmanufacturer⟩

theorem fetched (deviceId : Option String) :
    (Manager.selected fs' p deviceId).map manufacturerPieces =
      (Manager.selected fs p deviceId).map manufacturerPieces := by
  rcases h.selected deviceId with ⟨fault, hs, hs'⟩ | ⟨record, record', hs, hs', hsame⟩
  · rw [hs, hs']
  · rw [hs, hs']
    unfold manufacturerPieces
    simp only [Except.map, hsame]

/-- The output takes the one key just when it takes the other. -/
theorem exported (deviceId : Option String) :
    (print out ((Manager.selected fs' p deviceId).map keyPieces)).1 =
      (print out ((Manager.selected fs p deviceId).map keyPieces)).1 := by
  rcases h.selected deviceId with ⟨fault, hs, hs'⟩ | ⟨record, record', hs, hs', -⟩
  · rw [hs, hs']
  · have hpieces : (keyPieces record').map (List.map veil) =
        (keyPieces record).map (List.map veil) := by
      rw [map_veil_keyPieces, map_veil_keyPieces]
    have hwrite := Output.writeAll_congr veil_eq_iff hpieces out
    rw [hs, hs']
    unfold print
    simp only [Except.map]
    generalize out.writeAll (keyPieces record) = r at hwrite ⊢
    generalize out.writeAll (keyPieces record') = r' at hwrite ⊢
    obtain ⟨r, out₁⟩ := r
    obtain ⟨r', out₁'⟩ := r'
    obtain rfl : r' = r := hwrite
    cases r' <;> rfl

theorem run (op : Operation) : (run fs' p key' op out).result = (run fs p key op out).result ∧
    ((∀ deviceId, op ≠ .exportKey deviceId) →
      (run fs' p key' op out).out = (run fs p key op out).out) ∧
    Alike (run fs p key op out).fs (run fs' p key' op out).fs := by
  cases op with
  | generate deviceId manufacturerId =>
    obtain ⟨hresult, halike⟩ := h.generate key key' deviceId manufacturerId
    simp only [run_generate]
    exact ⟨hresult, fun _ => trivial, halike⟩
  | exportKey deviceId =>
    simp only [run_exportKey]
    exact ⟨h.exported deviceId, fun hne => absurd rfl (hne deviceId), h.alike⟩
  | cmakeDump output =>
    obtain ⟨hresult, halike⟩ := h.dump output
    simp only [run_cmakeDump]
    exact ⟨hresult, fun _ => trivial, halike⟩
  | fetchManufacturerId deviceId =>
    simp only [run_fetchManufacturerId, h.fetched deviceId]
    exact ⟨trivial, fun _ => trivial, h.alike⟩

end SameStores

/-! ## 4. What an operation tells -/

/-- **An operation tells no key.** In two trees that differ in nothing but the contents of files, a
    path reads as the saved forms of two stores of the same devices with the same manufacturer ids.
    Then both stores load, with the same text for diagnostics. An operation has the same result on
    both, be it an outcome or a fault, whatever keys it draws and whatever its output takes. But for
    `exportKey` it prints the same; and it leaves trees that differ in nothing but the contents of
    files. -/
theorem run_tells_no_key (halike : Alike fs fs') (hsame : SameDevices s s')
    (hread : fs.read p = .ok s.saved) (hread' : fs'.read p = .ok s'.saved) (key key' : DeviceKey)
    (op : Operation) (out : Output) :
    (KeyFile.load fs p = .ok s ∧ KeyFile.load fs' p = .ok s' ∧ s'.debug = s.debug) ∧
      (run fs' p key' op out).result = (run fs p key op out).result ∧
      ((∀ deviceId, op ≠ .exportKey deviceId) →
        (run fs' p key' op out).out = (run fs p key op out).out) ∧
      Alike (run fs p key op out).fs (run fs' p key' op out).fs := by
  have hstores : SameStores fs fs' p s s' :=
    ⟨halike, KeyFile.load_of_read_saved hread, KeyFile.load_of_read_saved hread', hsame⟩
  exact ⟨⟨hstores.loaded, hstores.loaded', hsame.debug_eq⟩, hstores.run op⟩

/-- The store of one device with another key than `oneDevice` has. -/
def otherKey : KeyStore := KeyStore.empty.put "d" ⟨"m", ⟨List.replicate keyLength 8, rfl⟩⟩

/-- The key file with that store. -/
def otherKeyFile : FileSystem :=
  FileSystem.empty.put [Utf8.ofString "keys.json"] (.file 0o600 otherKey.saved)

/-- An output that takes ten bytes refuses either key in the same way. -/
theorem export_tells_no_key :
    (run otherKeyFile (Path.ofString "keys.json") KeyFile.someKey (.exportKey (some "d"))
        (.limited 10 "output full")).result =
      (run oneDeviceFile (Path.ofString "keys.json") KeyFile.someKey (.exportKey (some "d"))
        (.limited 10 "output full")).result := by
  have hread : oneDeviceFile.read (Path.ofString "keys.json") = .ok KeyFile.oneDevice.saved :=
    read_keyFile _
  have hread' : otherKeyFile.read (Path.ofString "keys.json") = .ok otherKey.saved :=
    read_keyFile _
  have houtline : (Entry.file 0o600 otherKey.saved).outline =
      (Entry.file 0o600 KeyFile.oneDevice.saved).outline := by
    simp only [Entry.outline]
  have halike : Alike oneDeviceFile otherKeyFile := by
    unfold oneDeviceFile otherKeyFile
    exact (Alike.refl FileSystem.empty).put houtline _
  have hsame : SameDevices KeyFile.oneDevice otherKey := by
    unfold SameDevices
    decide +kernel
  have htells := run_tells_no_key halike hsame hread hread' KeyFile.someKey KeyFile.someKey
    (.exportKey (some "d")) (.limited 10 "output full")
  exact htells.2.1

end Manager

end DeviceKeys
