import DeviceKeys.Proofs.KeyFile
import DeviceKeys.Proofs.Store.Mapping
import DeviceKeys.Proofs.Store.Record

/-! # A key store is read as the grammar says

* **`KeyStore.ofJson_eq_ok_iff`**: a document is read just when it has the form of one, and the
  store then holds its members, put in one after the other. So the last of the records of an id
  stays (`KeyStore.get?_ofList`).
* **`KeyFile.loads_just_documents`**: the same of the bytes of a key store file, with what is
  refused. `loads_repeated_device` is a file in which an id stands twice.
-/

namespace DeviceKeys

open Json

variable {s t r : Bytes}

/-! ## 1. Stores -/

theorem RecordForm.length_le {record : KeyRecord} (h : RecordForm s record r) :
    r.length ≤ s.length := by
  cases h with
  | object h =>
    have := h.length_lt fun _ _ _ _ => FieldForm.length_le
    simp only [List.length_cons]
    omega
  | list hs ht hu hv hw _ hx =>
    have := hs.length_le
    have := StringData.length_lt ht
    have := hu.length_le
    have := hv.length_le
    have := StringData.length_lt hw
    have := hx.length_le
    simp only [List.length_cons] at *
    omega

/-- A store with further members put in, one after the other. -/
def KeyStore.putAll (store : KeyStore) (members : List (String × KeyRecord)) : KeyStore :=
  members.foldl (fun s e => s.put e.1 e.2) store

/-- **What is read as the devices of a store are members of one.** -/
theorem members_of_readDevices : ∀ {n : Nat} {first : Bool} {store store' : KeyStore}
    {s r : Bytes}, readDevices n first store s = .ok (store', r) → ∃ members,
      Members (fun _ => RecordForm) first s members r ∧ store' = store.putAll members
  | 0, _, _, _, _, _, h => by cases h
  | n + 1, first, store, store', s, r, h => by
    obtain ⟨⟨more, u⟩, hnext, h⟩ := bind_eq_ok_iff.mp h
    cases more with
    | false =>
      cases h
      obtain ⟨t, rfl, hs⟩ := nextMember_eq_false_iff.mp hnext
      exact ⟨[], .close hs, rfl⟩
    | true =>
      obtain ⟨⟨id, v⟩, hid, h⟩ := bind_eq_ok_iff.mp h
      obtain ⟨w, hw, h⟩ := bind_eq_ok_iff.mp h
      obtain ⟨⟨record, x⟩, hrec, h⟩ := bind_eq_ok_iff.mp h
      obtain ⟨t, hc, ht⟩ := nextMember_eq_true_iff.mp hnext
      obtain ⟨y, hy, hform⟩ := readRecord_eq_ok_iff.mp hrec
      obtain ⟨members, hms, rfl⟩ := members_of_readDevices h
      exact ⟨(id, record) :: members, .member hc (.mk ht (readString_eq_ok_iff.mp hid)
        (readColon_eq_ok_iff.mp hw) hy hform) hms, rfl⟩

/-- **The devices of a store are read to their end.** -/
theorem readDevices_of_members {first : Bool} {members : List (String × KeyRecord)}
    (h : Members (fun _ => RecordForm) first s members r) : ∀ {n : Nat} {store : KeyStore},
    s.length < n → readDevices n first store s = .ok (store.putAll members, r) := by
  induction h with
  | @close first s r hs =>
    intro n store hn
    obtain ⟨n, rfl⟩ : ∃ m, n = m + 1 := ⟨n - 1, by omega⟩
    have hnext : nextMember first s = .ok (false, 0x7D :: r) :=
      nextMember_eq_false_iff.mpr ⟨r, rfl, hs⟩
    exact bind_eq_ok_iff.mpr ⟨_, hnext, rfl⟩
  | @member first s t u r e members hc hm h ih =>
    intro n store hn
    obtain ⟨n, rfl⟩ : ∃ m, n = m + 1 := ⟨n - 1, by omega⟩
    have hlen := hm.length_lt fun _ _ _ _ => RecordForm.length_le
    have hle := Comma.length_le hc
    obtain ⟨hs, ht, hu, hb, hw⟩ := hm
    have hnext := nextMember_eq_true_iff.mpr ⟨t, hc, hs⟩
    exact bind_eq_ok_iff.mpr ⟨_, hnext, bind_eq_ok_iff.mpr ⟨_, readString_eq_ok_iff.mpr ht,
      bind_eq_ok_iff.mpr ⟨_, readColon_eq_ok_iff.mpr hu,
        bind_eq_ok_iff.mpr ⟨_, readRecord_eq_ok_iff.mpr ⟨_, hb, hw⟩, ih (by omega)⟩⟩⟩⟩

namespace KeyStore

theorem readStore_eq_ok_iff {store : KeyStore} : readStore s = .ok (store, r) ↔
    ∃ t members, Blank s (0x7B :: t) ∧ Members (fun _ => RecordForm) true t members r ∧
      store = ofList members := by
  constructor
  · intro h
    unfold readStore at h
    split at h
    · cases h
    rename_i b t hs
    split at h
    · subst b
      obtain ⟨members, hms, rfl⟩ := members_of_readDevices h
      exact ⟨t, members, (skipSpace_eq_cons_iff.mp hs).1, hms, rfl⟩
    · exact absurd h (refuse_ne_ok _ _ _)
  · rintro ⟨t, members, hs, hms, rfl⟩
    unfold readStore
    rw [skipSpace_eq_cons_iff.mpr ⟨hs, rfl⟩]
    exact readDevices_of_members hms (Nat.lt_succ_self _)

/-- **A document is read just when it is one object of records and nothing else. The store then
    holds its members, put in one after the other.** -/
theorem ofJson_eq_ok_iff {document : Bytes} {store : KeyStore} :
    ofJson document = .ok store ↔
      ∃ members, StoreForm document members ∧ store = ofList members := by
  unfold ofJson readDocument
  rw [mapError_eq_ok_iff, bind_eq_ok_iff]
  constructor
  · rintro ⟨⟨store', r⟩, hread, h⟩
    simp only at h
    split at h
    · rename_i hr
      cases h
      obtain ⟨t, members, hs, hms, rfl⟩ := readStore_eq_ok_iff.mp hread
      exact ⟨members, ⟨t, r, hs, hms, skipSpace_eq_nil_iff.mp hr⟩, rfl⟩
    · cases h
  · rintro ⟨members, ⟨t, r, hs, hms, hr⟩, rfl⟩
    refine ⟨_, readStore_eq_ok_iff.mpr ⟨t, members, hs, hms, rfl⟩, ?_⟩
    simp only [skipSpace_eq_nil_iff.mpr hr]

theorem get?_putAll (id : String) : ∀ (members : List (String × KeyRecord)) (store : KeyStore),
    (store.putAll members).get? id = (members.reverse.lookup id).or (store.get? id)
  | [], store => rfl
  | e :: members, store => by
    have ih := get?_putAll id members (store.put e.1 e.2)
    rw [putAll, List.foldl_cons, ← putAll, ih, get?_put, List.reverse_cons, List.lookup_append,
      Option.or_assoc]
    by_cases h : id = e.1
    · rw [if_pos h, h, List.lookup_cons_self, Option.some_or]
    · rw [if_neg h, List.lookup_cons, beq_eq_false_iff_ne.mpr h, List.lookup_nil, Option.none_or]

/-- The last of the records of an id stays. -/
theorem get?_ofList (members : List (String × KeyRecord)) (id : String) :
    (ofList members).get? id = members.reverse.lookup id :=
  (get?_putAll id members empty).trans (Option.or_none)

end KeyStore

/-! ## 2. Key store files -/

namespace KeyFile

variable {fs : FileSystem} {p : Path} {document : Bytes}

/-- **A key store file loads just when its bytes are one object of records.** The store then maps
    each id to the last of its records, and no other id to any. A file with any other bytes is
    corrupt. -/
theorem loads_just_documents (h : fs.read p = .ok document) :
    ((∃ store, load fs p = .ok store) ↔ ∃ members, StoreForm document members) ∧
      (∀ store, load fs p = .ok store ↔ ∃ members, StoreForm document members ∧
        ∀ id, store.get? id = members.reverse.lookup id) ∧
      ((¬ ∃ members, StoreForm document members) →
        ∃ refusal, load fs p = .error (.corrupt p refusal)) := by
  have hload : load fs p = (KeyStore.ofJson document).mapError (.corrupt p) := by
    unfold load
    rw [h]
  have hiff (store : KeyStore) : load fs p = .ok store ↔ ∃ members, StoreForm document members ∧
      store = KeyStore.ofList members := by
    rw [hload, mapError_eq_ok_iff, KeyStore.ofJson_eq_ok_iff]
  refine ⟨⟨?_, ?_⟩, fun store => (hiff store).trans ?_, fun hnot => ?_⟩
  · rintro ⟨store, hstore⟩
    obtain ⟨members, hform, -⟩ := (hiff store).mp hstore
    exact ⟨members, hform⟩
  · rintro ⟨members, hform⟩
    exact ⟨_, (hiff _).mpr ⟨members, hform, rfl⟩⟩
  · refine exists_congr fun members => and_congr_right fun _ => ⟨?_, fun hget => ?_⟩
    · rintro rfl id
      exact KeyStore.get?_ofList members id
    · exact KeyStore.ext_get? fun id => (hget id).trans (KeyStore.get?_ofList members id).symm
  · cases hj : KeyStore.ofJson document with
    | ok store =>
      obtain ⟨members, hform, -⟩ := KeyStore.ofJson_eq_ok_iff.mp hj
      exact absurd ⟨members, hform⟩ hnot
    | error refusal =>
      rw [hload, hj]
      exact ⟨refusal, rfl⟩

/-- A document in which the only device stands twice: as a list, and then, its name written with an
    escape, as an object with a member that is not wanted. -/
def repeatedDevice : Bytes :=
  Utf8.ofString " \x7b\"d\":[\"x\",\"" ++ List.replicate 64 0x41 ++
    Utf8.ofString "\"],\n\"\\u0064\" : \x7b\"other\":[-1.5e+3,\x7b\x7d],\"key\":\"" ++
    List.replicate 64 0x37 ++ Utf8.ofString "\",\"manufacturer_id\":\"m\"\x7d\x7d\n"

/-- A file with that document. -/
def repeatedDeviceFile : FileSystem :=
  FileSystem.empty.put [Utf8.ofString "k"] (.file 0o600 repeatedDevice)

/-- It loads, and the store holds the last of the two records. -/
theorem loads_repeated_device : ∃ store, load repeatedDeviceFile (Path.ofString "k") = .ok store ∧
    store.get? "d" = some ⟨"m", List.replicate keyLength 0x77, rfl⟩ ∧
      ∃ members, StoreForm repeatedDevice members ∧
        ∀ id, store.get? id = members.reverse.lookup id := by
  have hdata : (repeatedDeviceFile.read (Path.ofString "k")).toOption = some repeatedDevice := by
    decide +kernel
  have hget : (load repeatedDeviceFile (Path.ofString "k")).toOption.map (·.get? "d") =
      some (some ⟨"m", List.replicate keyLength 0x77, rfl⟩) := by
    decide +kernel
  have hread := eq_ok_of_toOption hdata
  obtain ⟨store, hstore, hdevice⟩ := Option.map_eq_some_iff.mp hget
  have hload := eq_ok_of_toOption hstore
  exact ⟨store, hload, hdevice, ((loads_just_documents hread).2.1 store).mp hload⟩

end KeyFile

end DeviceKeys
