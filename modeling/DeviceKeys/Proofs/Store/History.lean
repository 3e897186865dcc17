import Mathlib.Data.List.Dedup
import DeviceKeys.Proofs.Store.Document
import DeviceKeys.Proofs.Store.KeyTable
import DeviceKeys.Proofs.Store.Reading

/-! # A key store after a history of insertions

A history is the list of the pairs that a store is collected from, and of those that are inserted
into it after that.

* `lastGiven` is the mapping of a history: an id has the record that was given for it last.
  `lastGiven_eq_some_iff` and `lastGiven_eq_none_iff` say so without a function.
* `insertAll` is the run of the insertions; `insertAll_snd` and `getElem?_insertAll` are its step
  lemma `get?_put` carried along the run.
* `Maps` is what a store has to do with a history whose mapping it holds, and `maps_insertAll` that
  it does.
* **`KeyStore.history_tells_store`**: all of it for every history, and for any two of them that the
  mapping decides what the stores are and how they are written.
-/

namespace DeviceKeys

namespace KeyStore

variable {given history : List (String × KeyRecord)} {id : String} {r : KeyRecord}

/-! ## 1. The mapping of a history -/

/-- The record that was given last for an id. -/
def lastGiven (given : List (String × KeyRecord)) (id : String) : Option KeyRecord :=
  given.reverse.lookup id

/-- No record was given for an id just when it is in no pair. -/
theorem lastGiven_eq_none_iff : lastGiven given id = none ↔ id ∉ given.map Prod.fst := by
  rw [lastGiven, List.lookup_eq_none_iff]
  simp only [List.mem_reverse, bne_iff_ne, List.mem_map, not_exists, not_and]
  exact ⟨fun h e he heq => h e he heq.symm, fun h e he heq => h e he heq.symm⟩

/-- A record was given last just when no pair behind its own has the id. -/
theorem lastGiven_eq_some_iff : lastGiven given id = some r ↔
    ∃ before behind, given = before ++ (id, r) :: behind ∧ id ∉ behind.map Prod.fst := by
  have hne : ∀ l : List (String × KeyRecord),
      (∀ e ∈ l.reverse, (id != e.1) = true) ↔ id ∉ l.map Prod.fst := fun l =>
    List.lookup_eq_none_iff.symm.trans lastGiven_eq_none_iff
  rw [lastGiven, List.lookup_eq_some_iff]
  constructor
  · rintro ⟨l, m, heq, hl⟩
    refine ⟨m.reverse, l.reverse, ?_, (hne _).mp (by rwa [List.reverse_reverse])⟩
    rw [← List.reverse_reverse given, heq]
    simp
  · rintro ⟨before, behind, rfl, hb⟩
    exact ⟨behind.reverse, before.reverse, by simp, (hne behind).mpr hb⟩

/-! ## 2. Runs of insertions -/

/-- Insertions one after the other: what each of them gives back, and the store after all. -/
def insertAll (store : KeyStore) : List (String × KeyRecord) → List (Option KeyRecord) × KeyStore
  | [] => ([], store)
  | e :: inserts =>
    let (previous, store) := store.insert e.1 e.2
    let (others, store) := insertAll store inserts
    (previous :: others, store)

theorem insertAll_cons (store : KeyStore) (e : String × KeyRecord)
    (inserts : List (String × KeyRecord)) : store.insertAll (e :: inserts) =
      (store.get? e.1 :: ((store.put e.1 e.2).insertAll inserts).1,
        ((store.put e.1 e.2).insertAll inserts).2) := rfl

/-- The store after all insertions. -/
theorem insertAll_snd : ∀ (inserts : List (String × KeyRecord)) (store : KeyStore),
    (store.insertAll inserts).2 = store.putAll inserts
  | [], _ => rfl
  | e :: inserts, store => insertAll_snd inserts (store.put e.1 e.2)

theorem ofList_append (init inserts : List (String × KeyRecord)) :
    ofList (init ++ inserts) = (ofList init).putAll inserts := List.foldl_append

/-- **An insertion gives back the record that the id had just before.** -/
theorem getElem?_insertAll : ∀ (inserts init : List (String × KeyRecord)) (i : Nat),
    ((ofList init).insertAll inserts).1[i]? =
      inserts[i]?.map fun e => lastGiven (init ++ inserts.take i) e.1
  | [], _, _ => rfl
  | e :: inserts, init, 0 => by
    rw [List.take_zero, List.append_nil, insertAll_cons]
    exact congrArg some (get?_ofList init e.1)
  | e :: inserts, init, i + 1 => by
    have hput : (ofList init).put e.1 e.2 = ofList (init ++ [e]) := (ofList_append init [e]).symm
    have ih := getElem?_insertAll inserts (init ++ [e]) i
    rw [← hput, List.append_assoc, List.singleton_append] at ih
    rwa [insertAll_cons, List.take_succ_cons]

/-! ## 3. Stores that hold the mapping of a history -/

/-- A store holds the mapping of a history, with each id once, in the order of the UTF-8 bytes. -/
structure Maps (store : KeyStore) (given : List (String × KeyRecord)) : Prop where
  get?_eq : ∀ id, store.get? id = lastGiven given id
  size_eq : store.size = (given.map Prod.fst).dedup.length
  ids_ascend : store.ids.Pairwise fun a b => Utf8.ofString a < Utf8.ofString b
  ids_nodup : store.ids.Nodup
  mem_ids_iff : ∀ id, id ∈ store.ids ↔ id ∈ given.map Prod.fst
  ids_eq : store.ids = store.toList.map Prod.fst
  mem_toList_iff : ∀ id r, (id, r) ∈ store.toList ↔
    ∃ before behind, given = before ++ (id, r) :: behind ∧ id ∉ behind.map Prod.fst

/-- An id is among those of a list of pairs just when it is found. -/
theorem mem_fst_iff_findEntry : ∀ {l : List (String × KeyRecord)},
    id ∈ l.map Prod.fst ↔ findEntry id l ≠ none
  | [] => iff_of_false List.not_mem_nil fun h => h rfl
  | f :: l => by
    rw [List.map_cons, List.mem_cons, mem_fst_iff_findEntry, findEntry]
    by_cases h : id = f.1
    · simp [h]
    · simp [h]

theorem mem_of_findEntry : ∀ {l : List (String × KeyRecord)},
    findEntry id l = some r → (id, r) ∈ l
  | f :: l, h => by
    rw [findEntry] at h
    split at h
    · rename_i he
      cases h
      exact he ▸ List.mem_cons_self
    · exact List.mem_cons_of_mem f (mem_of_findEntry h)

/-- A store lists just the pairs that it maps. -/
theorem mem_toList_iff_get? (store : KeyStore) :
    (id, r) ∈ store.toList ↔ store.get? id = some r :=
  ⟨findEntry_of_mem store.ascending, mem_of_findEntry⟩

theorem ids_pairwise (store : KeyStore) : store.ids.Pairwise Text.Before :=
  List.pairwise_map.mpr store.ascending

/-- **A store collected from a list of pairs holds the mapping of that list.** -/
theorem maps_ofList (given : List (String × KeyRecord)) : (ofList given).Maps given := by
  have hget : ∀ id, (ofList given).get? id = lastGiven given id := get?_ofList given
  have hnodup : (ofList given).ids.Nodup := (ids_pairwise _).imp fun {a b} hab heq => by
    rw [heq] at hab
    exact Text.before_irrefl b hab
  have hmem : ∀ id, id ∈ (ofList given).ids ↔ id ∈ given.map Prod.fst := fun id =>
    mem_fst_iff_findEntry.trans ((hget id ▸ lastGiven_eq_none_iff).not_left)
  have hperm : (ofList given).ids.Perm (given.map Prod.fst).dedup :=
    (List.perm_ext_iff_of_nodup hnodup (List.nodup_dedup _)).mpr fun id =>
      (hmem id).trans List.mem_dedup.symm
  have hsize : (ofList given).size = (ofList given).ids.length := (List.length_map _).symm
  exact {
    get?_eq := hget
    size_eq := hsize.trans hperm.length_eq
    ids_ascend := ids_pairwise _
    ids_nodup := hnodup
    mem_ids_iff := hmem
    ids_eq := rfl
    mem_toList_iff := fun id r => (mem_toList_iff_get? _).trans
      (hget id ▸ lastGiven_eq_some_iff) }

/-- **What insertions into a collected store leave holds the mapping of both lists.** -/
theorem maps_insertAll (init inserts : List (String × KeyRecord)) :
    ((ofList init).insertAll inserts).2.Maps (init ++ inserts) := by
  rw [insertAll_snd, ← ofList_append]
  exact maps_ofList _

/-- Two histories end in one mapping. -/
def SameMapping (given history : List (String × KeyRecord)) : Prop :=
  ∀ id, lastGiven given id = lastGiven history id

/-- **Stores that hold the mappings of two histories are one just when the mappings are.** -/
theorem Maps.eq_iff {s t : KeyStore} (hs : s.Maps given) (ht : t.Maps history) :
    s = t ↔ SameMapping given history := by
  constructor
  · rintro rfl id
    rw [← hs.get?_eq, ht.get?_eq]
  · intro h
    refine ext_get? fun id => ?_
    rw [hs.get?_eq, h id, ht.get?_eq]

/-! ## 4. The written forms -/

/-- The compact text tells the store. -/
theorem compact_inj {s t : KeyStore} : s.compact = t.compact ↔ s = t := by
  refine ⟨fun h => ?_, congrArg compact⟩
  have hs := ofJson_compact s
  rw [h, ofJson_compact t] at hs
  exact (Except.ok.inj hs).symm

/-- So does the pretty text. -/
theorem pretty_inj {s t : KeyStore} : s.pretty = t.pretty ↔ s = t := by
  refine ⟨fun h => ?_, congrArg pretty⟩
  have hs := ofJson_saved s
  rw [saved, String.ofList_inj.mp h, ← saved, ofJson_saved t] at hs
  exact (Except.ok.inj hs).symm

/-- **A key store is the mapping of its history, in which the last record of an id stays.** Each
    insertion gives back the record that the id had just before, and the store after all of them
    holds the mapping, each id once and in the order of the UTF-8 bytes. Of two histories, in
    whatever order and with whatever records in between, those that end in one mapping leave one
    store, written in one way; those that do not leave two, whose JSON texts differ. -/
theorem history_tells_store (init inserts : List (String × KeyRecord)) :
    (∀ i, ((ofList init).insertAll inserts).1[i]? =
      inserts[i]?.map fun e => lastGiven (init ++ inserts.take i) e.1) ∧
    ((ofList init).insertAll inserts).2.Maps (init ++ inserts) ∧
    ∀ init' inserts' : List (String × KeyRecord),
      let store := ((ofList init).insertAll inserts).2
      let other := ((ofList init').insertAll inserts').2
      (store = other ↔ SameMapping (init ++ inserts) (init' ++ inserts')) ∧
      (store.compact = other.compact ↔ SameMapping (init ++ inserts) (init' ++ inserts')) ∧
      (store.pretty = other.pretty ↔ SameMapping (init ++ inserts) (init' ++ inserts')) ∧
      (SameMapping (init ++ inserts) (init' ++ inserts') →
        store.keyTable = other.keyTable ∧ store.debug = other.debug) := by
  refine ⟨getElem?_insertAll inserts init, maps_insertAll init inserts, ?_⟩
  intro init' inserts' store other
  have hsame : store = other ↔ SameMapping (init ++ inserts) (init' ++ inserts') :=
    (maps_insertAll init inserts).eq_iff (maps_insertAll init' inserts')
  refine ⟨hsame, compact_inj.trans hsame, pretty_inj.trans hsame, fun h => ?_⟩
  rw [hsame.mpr h]
  exact ⟨rfl, rfl⟩

end KeyStore

end DeviceKeys
