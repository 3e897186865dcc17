import DeviceKeys.Key
import DeviceKeys.Text.Order

/-! # The key store

A key store maps device ids to records (`KeyRecord`: a manufacturer id and a key). It is a list of
pairs in strictly ascending order of the ids, so two stores with the same mapping are equal.

* `KeyStore.get?` is the mapping; `insert` returns the record the id had before, and the new store.
* `KeyStore.ofList` inserts pairs one after the other, so the last one of an id stays.
* `KeyStore.toList`, `ids` and `size` list and count what is mapped.
* `get?_put` says what an insertion does to the mapping.
-/

namespace DeviceKeys

/-- What the store holds for a device. -/
structure KeyRecord where
  manufacturerId : String
  key : DeviceKey
  deriving DecidableEq

/-- The ids of a list of pairs ascend strictly. -/
def Ascending (entries : List (String × KeyRecord)) : Prop :=
  entries.Pairwise fun a b => Text.Before a.1 b.1

/-- The record a list of pairs holds for an id: the first one. -/
def findEntry (id : String) : List (String × KeyRecord) → Option KeyRecord
  | [] => none
  | e :: rest => if id = e.1 then some e.2 else findEntry id rest

/-- The entries with the record of `id` added or replaced. -/
def putEntry (id : String) (r : KeyRecord) : List (String × KeyRecord) → List (String × KeyRecord)
  | [] => [(id, r)]
  | e :: rest =>
    if Text.Before id e.1 then (id, r) :: e :: rest
    else if id = e.1 then (id, r) :: rest
    else e :: putEntry id r rest

theorem mem_putEntry {id : String} {r : KeyRecord} {e : String × KeyRecord} :
    ∀ {entries : List (String × KeyRecord)}, e ∈ putEntry id r entries → e = (id, r) ∨ e ∈ entries
  | [], h => by simpa [putEntry] using h
  | f :: rest, h => by
    unfold putEntry at h
    split at h
    · simpa using h
    · split at h
      · rcases List.mem_cons.1 h with h | h
        · exact .inl h
        · exact .inr (List.mem_cons_of_mem _ h)
      · rcases List.mem_cons.1 h with h | h
        · exact .inr (h ▸ List.mem_cons_self)
        · exact (mem_putEntry h).imp_right (List.mem_cons_of_mem _)

theorem ascending_putEntry {id : String} {r : KeyRecord} :
    ∀ {entries : List (String × KeyRecord)}, Ascending entries → Ascending (putEntry id r entries)
  | [], _ => List.pairwise_singleton _ _
  | f :: rest, h => by
    obtain ⟨hf, hr⟩ := List.pairwise_cons.1 h
    unfold putEntry
    split
    · rename_i hb
      refine List.pairwise_cons.2 ⟨fun e he => ?_, h⟩
      rcases List.mem_cons.1 he with he | he
      · exact he ▸ hb
      · exact Text.before_trans hb (hf e he)
    · rename_i hb
      split
      · rename_i he
        exact List.pairwise_cons.2 ⟨fun e hm => he ▸ hf e hm, hr⟩
      · rename_i hne
        refine List.pairwise_cons.2 ⟨fun e he => ?_, ascending_putEntry hr⟩
        rcases mem_putEntry he with he | he
        · rcases Text.before_or_eq_or_before id f.1 with k | k | k
          · exact absurd k hb
          · exact absurd k hne
          · exact he ▸ k
        · exact hf e he

/-- The key store. -/
structure KeyStore where
  entries : List (String × KeyRecord)
  ascending : Ascending entries
  deriving DecidableEq

namespace KeyStore

/-- The store without devices. -/
def empty : KeyStore := ⟨[], List.Pairwise.nil⟩

instance : EmptyCollection KeyStore := ⟨empty⟩

/-- The record of a device. -/
def get? (s : KeyStore) (id : String) : Option KeyRecord := findEntry id s.entries

/-- The store with the record of `id` added or replaced. -/
def put (s : KeyStore) (id : String) (r : KeyRecord) : KeyStore :=
  ⟨putEntry id r s.entries, ascending_putEntry s.ascending⟩

/-- Adds or replaces a record and gives the one that was there. -/
def insert (s : KeyStore) (id : String) (r : KeyRecord) : Option KeyRecord × KeyStore :=
  (s.get? id, s.put id r)

/-- The devices and their records in the order of the ids. -/
def toList (s : KeyStore) : List (String × KeyRecord) := s.entries

/-- The ids in their order. -/
def ids (s : KeyStore) : List String := s.entries.map Prod.fst

/-- The keys in the order of the ids. -/
def keys (s : KeyStore) : List DeviceKey := s.entries.map (·.2.key)

/-- The count of devices. -/
def size (s : KeyStore) : Nat := s.entries.length

/-- The store holds no device. -/
def isEmpty (s : KeyStore) : Bool := s.entries.isEmpty

/-- The store after all insertions in turn. -/
def ofList (l : List (String × KeyRecord)) : KeyStore :=
  l.foldl (fun s e => s.put e.1 e.2) empty

@[simp] theorem get?_empty (id : String) : empty.get? id = none := rfl

theorem findEntry_putEntry (id id' : String) (r : KeyRecord) :
    ∀ entries : List (String × KeyRecord),
      findEntry id' (putEntry id r entries) = if id' = id then some r else findEntry id' entries
  | [] => by simp [putEntry, findEntry]
  | f :: rest => by
    unfold putEntry
    split
    · simp [findEntry]
    · split
      · rename_i _ he
        subst he
        by_cases hi : id' = f.1 <;> simp [findEntry, hi]
      · rename_i _ hne
        simp only [findEntry, findEntry_putEntry id id' r rest]
        by_cases hi : id' = f.1
        · subst hi
          simp [Ne.symm hne]
        · simp [hi]

/-- What an insertion does to the mapping. -/
theorem get?_put (s : KeyStore) (id id' : String) (r : KeyRecord) :
    (s.put id r).get? id' = if id' = id then some r else s.get? id' :=
  findEntry_putEntry id id' r s.entries

end KeyStore

end DeviceKeys
