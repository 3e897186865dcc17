import DeviceKeys.Proofs.Manager.Generate
import DeviceKeys.Proofs.Store.KeyTable
import DeviceKeys.Proofs.Store.Mapping

/-! # What the key table that is written tells

`dump` writes the key table of the store to a file. `dump_tells_keys` says what it tells: the count
of the devices and their keys in the order of the ids, each the same that `exportKey` prints. It can
be read from the path it was written to unless the path is too long to be opened or the writing has
severed it (`dumped_table_is_not_read`).
-/

namespace DeviceKeys.Manager

open FileSystem
open KeyTable (TableForm)
open KeyFile (eq_ok_of_toOption exists_of_toOption oneDevice someKey pathThroughLink)

variable {fs fs' : FileSystem} {p output target : Path} {n : Nat} {key : DeviceKey} {s : KeyStore}

/-- When a key table has been written, it is that of the loaded store. -/
theorem dump_eq_ok (h : dump fs p output = (.ok (.dumped target n), fs')) :
    ∃ s, KeyFile.load fs p = .ok s ∧ s.size = n ∧
      fs.replace output (Utf8.ofString s.keyTable) = (.ok (), fs') := by
  have hcases := dump_cases fs p output
  rw [h] at hcases
  cases hcases with
  | written hl hrep => exact ⟨_, hl, rfl, hrep⟩

/-- What is printed of a device that is in the store, by an output without a limit. -/
theorem exportKey_of_loaded {id : String} {record : KeyRecord} (hl : KeyFile.load fs p = .ok s)
    (hid : id ≠ "") (hr : s.get? id = some record) :
    (run fs p key (.exportKey (some id)) .unlimited).result = .ok .printed ∧
      (run fs p key (.exportKey (some id)) .unlimited).out.printed =
        Utf8.encode (record.key.bytes.flatMap hexPair) ++ [0x0A] := by
  have hsel : selected fs p (some id) = .ok record := by
    rw [selected_of_loaded (given_eq_some.mpr ⟨rfl, hid⟩) hl, recordOf, hr]
  rw [run_exportKey, hsel]
  simp only [Except.map, print_unlimited]
  exact ⟨trivial, rfl⟩

/-- **What the key table that is written tells.** The file that is written holds a text, and the
    path it was written to reads as that text just when the path is short enough to be opened and
    the writing has not severed it. The text is a key table with the count of the devices, and with
    as many rows of 32 bytes, and it is none in any other way. The ids of the loaded store ascend,
    and each row is the key of the id in the same place. It is what `exportKey` prints of the id, if
    the id is not empty, in hexadecimal digits. So the tables of two stores are one text just when
    their keys in the order of the ids are the same. -/
theorem dump_tells_keys (h : dump fs p output = (.ok (.dumped target n), fs')) :
    (∃ (s : KeyStore) (text : Bytes) (rows : List Bytes), KeyFile.load fs p = .ok s ∧ s.size = n ∧
      (∃ l mode, fs.landing? output = some l ∧ fs'.get? l = some (.file mode text)) ∧
      (fs'.read output = .ok text ↔
        output.bytes.length < pathLimit ∧ fs.severs output = false) ∧
      (∀ count rows', TableForm text count rows' ↔ count = n ∧ rows' = rows) ∧
      rows.length = n ∧ (∀ row ∈ rows, row.length = keyLength) ∧
      s.ids.length = n ∧ s.ids.Pairwise Text.Before ∧
      ∀ (i : Nat) id row, s.ids[i]? = some id → rows[i]? = some row →
        (∃ record, s.get? id = some record ∧ record.key.bytes = row) ∧
        (id ≠ "" → ∀ key,
          (run fs p key (.exportKey (some id)) .unlimited).result = .ok .printed ∧
            (run fs p key (.exportKey (some id)) .unlimited).out.printed =
              Utf8.encode (row.flatMap hexPair) ++ [0x0A])) ∧
      ∀ t u : KeyStore, t.keyTable = u.keyTable ↔ t.keys = u.keys := by
  obtain ⟨s, hl, rfl, hrep⟩ := dump_eq_ok h
  obtain ⟨l, name, hrep⟩ := replace_eq_ok hrep
  obtain ⟨mode, hfile⟩ := hrep.get?_landing
  refine ⟨⟨s, _, s.keys.map DeviceKey.bytes, hl, rfl, ⟨_, mode, hrep.landing?_eq, hfile⟩,
    hrep.read_ok_iff, fun count rows => KeyStore.tableForm_iff, ?_, ?_, ?_, ?_, ?_⟩,
    fun t u => KeyStore.keyTable_eq_iff⟩
  · simp [KeyStore.keys, KeyStore.size]
  · intro row hrow
    obtain ⟨k, -, rfl⟩ := List.mem_map.mp hrow
    exact k.length_eq
  · simp [KeyStore.ids, KeyStore.size]
  · exact List.pairwise_map.mpr s.ascending
  · intro i id row hid hrow
    unfold KeyStore.ids at hid
    unfold KeyStore.keys at hrow
    rw [List.getElem?_map, Option.map_eq_some_iff] at hid
    rw [List.map_map, List.getElem?_map, Option.map_eq_some_iff] at hrow
    obtain ⟨e, he, rfl⟩ := hid
    obtain ⟨e', he', rfl⟩ := hrow
    obtain rfl : e = e' := Option.some.inj (he.symm.trans he')
    have hget : s.get? e.1 = some e.2 := findEntry_of_mem s.ascending (List.mem_of_getElem? he)
    exact ⟨⟨e.2, hget, rfl⟩, fun hne key => exportKey_of_loaded hl hne hget⟩

/-- The table of the store of one device, which holds its key and is printed as its key. -/
theorem dump_tells_one_key : ∃ fs' text,
    dump oneDeviceFile (Path.ofString "keys.json") (Path.ofString "build/keys.h") =
        (.ok (.dumped (Path.ofString "build/keys.h") 1), fs') ∧
      fs'.read (Path.ofString "build/keys.h") = .ok text ∧
      TableForm text 1 [someKey.bytes] := by
  have hok : (dump oneDeviceFile (Path.ofString "keys.json")
      (Path.ofString "build/keys.h")).1.toOption =
        some (.dumped (Path.ofString "build/keys.h") 1) := by decide +kernel
  have hsaved : oneDeviceFile.read (Path.ofString "keys.json") = .ok oneDevice.saved :=
    read_keyFile _
  have hlen : (Path.ofString "build/keys.h").bytes.length < pathLimit := by decide +kernel
  have hsev : oneDeviceFile.severs (Path.ofString "build/keys.h") = false := by decide +kernel
  obtain ⟨fs', hdump⟩ := exists_of_toOption hok
  obtain ⟨⟨s, text, rows, hl, -, -, hread, htable, hrows, -, -, -, hrow⟩, -⟩ :=
    dump_tells_keys hdump
  obtain rfl : s = oneDevice := Except.ok.inj (hl.symm.trans (KeyFile.load_of_read_saved hsaved))
  obtain ⟨row, rfl⟩ := List.length_eq_one_iff.mp hrows
  obtain ⟨⟨record, hrecord, rfl⟩, -⟩ := hrow 0 "d" row (by decide +kernel) rfl
  obtain rfl : record = ⟨"m", someKey⟩ := by
    have hone : oneDevice.get? "d" = some ⟨"m", someKey⟩ := by decide +kernel
    exact Option.some.inj (hrecord.symm.trans hone)
  exact ⟨_, text, hdump, hread.mpr ⟨hlen, hsev⟩, (htable _ _).mpr ⟨rfl, rfl⟩⟩

/-- The key file of one device, and the link `L` to the missing `x`. -/
def keysAndLink : FileSystem :=
  oneDeviceFile.put [Utf8.ofString "L"] (.link (Path.ofString "x"))

/-- A key table that has been written and cannot be read from its path. -/
theorem dumped_table_is_not_read : ∃ fs',
    dump keysAndLink (Path.ofString "keys.json") pathThroughLink =
        (.ok (.dumped pathThroughLink 1), fs') ∧
      fs'.read pathThroughLink = .error .notDirectory := by
  have hok : (dump keysAndLink (Path.ofString "keys.json") pathThroughLink).1.toOption =
      some (.dumped pathThroughLink 1) := by decide +kernel
  have hlen : ¬ pathLimit ≤ pathThroughLink.bytes.length := by decide +kernel
  have hsev : keysAndLink.severs pathThroughLink = true := by decide +kernel
  obtain ⟨fs', hdump⟩ := exists_of_toOption hok
  obtain ⟨s, -, -, hrep⟩ := dump_eq_ok hdump
  obtain ⟨l, name, hrep⟩ := replace_eq_ok hrep
  exact ⟨_, hdump, by rw [hrep.read_eq, if_neg hlen, if_pos hsev]⟩

end DeviceKeys.Manager
