import DeviceKeys.Store

/-! # A key store is its mapping

* The pairs of a store come in ascending order, so the mapping tells them: two stores that map every
  id alike are one (`KeyStore.ext_get?`).
* The pairs of a store, put one after the other into the empty store, give the store again
  (`KeyStore.ofList_entries`).
-/

namespace DeviceKeys

/-! ## 1. Pairs in ascending order -/

/-- An id that comes before all those of a list is not found in it. -/
theorem findEntry_of_forall_before {id : String} :
    ∀ {l : List (String × KeyRecord)}, (∀ e ∈ l, Text.Before id e.1) → findEntry id l = none
  | [], _ => rfl
  | f :: l, h => by
    have hne : id ≠ f.1 := fun k =>
      Text.before_irrefl id (by simpa [← k] using h f List.mem_cons_self)
    rw [findEntry, if_neg hne]
    exact findEntry_of_forall_before fun e he => h e (List.mem_cons_of_mem f he)

/-- Nor is one that comes before the first id of a list in ascending order. -/
theorem findEntry_cons_of_before {id : String} {f : String × KeyRecord}
    {l : List (String × KeyRecord)} (hasc : Ascending (f :: l)) (h : Text.Before id f.1) :
    findEntry id (f :: l) = none := by
  refine findEntry_of_forall_before fun e he => ?_
  rcases List.mem_cons.mp he with rfl | he
  · exact h
  · exact Text.before_trans h ((List.pairwise_cons.mp hasc).1 e he)

/-- A list in ascending order holds one pair for an id. -/
theorem findEntry_of_mem {e : String × KeyRecord} : ∀ {l : List (String × KeyRecord)},
    Ascending l → e ∈ l → findEntry e.1 l = some e.2
  | f :: l, hasc, he => by
    obtain ⟨hf, hl⟩ := List.pairwise_cons.mp hasc
    rcases List.mem_cons.mp he with rfl | he
    · simp [findEntry]
    · have hne : e.1 ≠ f.1 := fun h => Text.before_irrefl f.1 (by simpa [h] using hf e he)
      rw [findEntry, if_neg hne]
      exact findEntry_of_mem hl he

/-- Lists in ascending order that map every id alike are one. -/
theorem eq_of_findEntry : ∀ {l l' : List (String × KeyRecord)}, Ascending l → Ascending l' →
    (∀ id, findEntry id l = findEntry id l') → l = l'
  | [], [], _, _, _ => rfl
  | [], f :: l', _, _, h => by
    have hf := h f.1
    simp [findEntry] at hf
  | e :: l, [], _, _, h => by
    have he := h e.1
    simp [findEntry] at he
  | e :: l, f :: l', hl, hl', h => by
    have he : findEntry e.1 (e :: l) = some e.2 := by simp [findEntry]
    have hf : findEntry f.1 (f :: l') = some f.2 := by simp [findEntry]
    rcases Text.before_or_eq_or_before e.1 f.1 with hb | heq | hb
    · rw [h, findEntry_cons_of_before hl' hb] at he
      cases he
    · have hval : e.2 = f.2 := by
        rw [h, heq, hf] at he
        exact (Option.some.inj he).symm
      obtain ⟨hle, hl⟩ := List.pairwise_cons.mp hl
      obtain ⟨hlf, hl'⟩ := List.pairwise_cons.mp hl'
      have hrest : l = l' := by
        refine eq_of_findEntry hl hl' fun id => ?_
        by_cases hid : id = e.1
        · rw [hid, findEntry_of_forall_before hle, heq, findEntry_of_forall_before hlf]
        · simpa [findEntry, hid, ← heq] using h id
      rw [Prod.ext heq hval, hrest]
    · rw [← h, findEntry_cons_of_before hl hb] at hf
      cases hf

/-- A pair that comes after all others is put behind them. -/
theorem putEntry_of_forall_before {id : String} (r : KeyRecord) :
    ∀ {l : List (String × KeyRecord)}, (∀ e ∈ l, Text.Before e.1 id) →
      putEntry id r l = l ++ [(id, r)]
  | [], _ => rfl
  | f :: l, h => by
    have hf := h f List.mem_cons_self
    have hb : ¬ Text.Before id f.1 := fun k => Text.before_irrefl id (Text.before_trans k hf)
    have hne : id ≠ f.1 := fun k => Text.before_irrefl id (k ▸ hf)
    rw [putEntry, if_neg hb, if_neg hne,
      putEntry_of_forall_before r fun e he => h e (List.mem_cons_of_mem f he)]
    rfl

/-- Pairs in ascending order, put one after the other behind those that are there, are appended. -/
theorem entries_foldl_put : ∀ (l : List (String × KeyRecord)) (s : KeyStore),
    Ascending (s.entries ++ l) →
    (l.foldl (fun s e => s.put e.1 e.2) s).entries = s.entries ++ l
  | [], s, _ => (List.append_nil _).symm
  | e :: l, s, h => by
    have hput : (s.put e.1 e.2).entries = s.entries ++ [e] :=
      putEntry_of_forall_before e.2 fun f hf =>
        (List.pairwise_append.mp h).2.2 f hf e List.mem_cons_self
    have hasc : Ascending ((s.put e.1 e.2).entries ++ l) := by
      rw [hput, List.append_assoc]
      exact h
    rw [List.foldl_cons, entries_foldl_put l _ hasc, hput, List.append_assoc]
    rfl

/-! ## 2. Stores -/

namespace KeyStore

theorem eq_of_entries : ∀ {s t : KeyStore}, s.entries = t.entries → s = t
  | ⟨_, _⟩, ⟨_, _⟩, rfl => rfl

/-- A store is the list of its pairs, put one after the other. -/
theorem ofList_entries (s : KeyStore) : ofList s.entries = s :=
  eq_of_entries (entries_foldl_put s.entries empty s.ascending)

/-- **Stores that map every id alike are one.** -/
theorem ext_get? {s t : KeyStore} (h : ∀ id, s.get? id = t.get? id) : s = t :=
  eq_of_entries (eq_of_findEntry s.ascending t.ascending h)

/-- A record of one id makes stores alike that map every other id alike. -/
theorem put_eq_put_iff {s t : KeyStore} {id : String} {r : KeyRecord} :
    s.put id r = t.put id r ↔ ∀ other, other ≠ id → s.get? other = t.get? other := by
  constructor
  · intro h other hne
    have hget := congrArg (·.get? other) h
    simpa only [get?_put, if_neg hne] using hget
  · intro h
    refine ext_get? fun other => ?_
    rw [get?_put, get?_put]
    split
    · rfl
    · rename_i hne
      exact h other hne

end KeyStore

end DeviceKeys
