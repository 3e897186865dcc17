import DeviceKeys.Store.Document
import DeviceKeys.Proofs.Json.Text
import DeviceKeys.Proofs.Store.Mapping

/-! # A written key store reads back

* `Layout` holds the blanks that stand between the tokens of a written store. The compact and the
  pretty text are one text in two layouts (`encode_compactChars`, `encode_prettyChars`).
* Each part of that text reads back in every layout, whatever follows it: `readText_quoted`,
  `readRecord_written`, `readDevices_written`.
* The devices come back in the order in which they were written, so both texts read back as the
  store (`ofJson_compact`, `ofJson_saved`).
-/

namespace DeviceKeys

open Json Utf8

/-! ## 1. Tokens behind blanks -/

theorem skipSpace_blanks {ws : Bytes} (hw : ∀ b ∈ ws, isSpace b = true) {b : UInt8}
    (hb : isSpace b = false) (r : Bytes) : skipSpace (ws ++ b :: r) = b :: r := by
  unfold skipSpace
  rw [List.dropWhile_append_of_pos hw, List.dropWhile_cons_of_neg (by simp [hb])]

theorem isSpace_of_mem_nil : ∀ b ∈ ([] : Bytes), isSpace b = true := by simp

theorem skipSpace_token {b : UInt8} (hb : isSpace b = false) (r : Bytes) :
    skipSpace (b :: r) = b :: r := skipSpace_blanks isSpace_of_mem_nil hb r

section Blanks

variable {ws : Bytes} (hw : ∀ b ∈ ws, isSpace b = true)
include hw

theorem readText_quoted (s : String) (r : Bytes) :
    readText (ws ++ (encode (quoted s) ++ r)) = .ok (s, r) := by
  unfold readText
  rw [encode_quoted, List.cons_append, skipSpace_blanks hw (by decide), List.append_assoc]
  exact readString_quoted s r

theorem nextMember_first (s : String) (r : Bytes) :
    nextMember true (ws ++ (encode (quoted s) ++ r)) =
      .ok (true, encode (s.toList.flatMap escaped) ++ 0x22 :: r) := by
  unfold nextMember
  rw [encode_quoted, List.cons_append, skipSpace_blanks hw (by decide), List.append_assoc]
  rfl

theorem nextMember_next (s : String) (r : Bytes) :
    nextMember false (0x2C :: (ws ++ (encode (quoted s) ++ r))) =
      .ok (true, encode (s.toList.flatMap escaped) ++ 0x22 :: r) := by
  unfold nextMember
  rw [skipSpace_token (by decide)]
  simp only [encode_quoted, List.cons_append, skipSpace_blanks hw (b := 0x22) (by decide),
    List.append_assoc]
  rfl

theorem nextMember_end (first : Bool) (r : Bytes) :
    nextMember first (ws ++ 0x7D :: r) = .ok (false, 0x7D :: r) := by
  unfold nextMember
  rw [skipSpace_blanks hw (by decide)]
  rfl

end Blanks

theorem readColon_colon (r : Bytes) : readColon (0x3A :: r) = .ok r := by
  unfold readColon
  rw [skipSpace_token (by decide)]
  rfl

/-! ## 2. Layouts -/

/-- The blanks of a written store: in front of the name of a device, in front of the name of a
    member of a record, behind a colon, and in front of the brace that closes a record and of the
    one that closes a store with devices. -/
structure Layout where
  device : Bytes
  member : Bytes
  value : Bytes
  recordEnd : Bytes
  storeEnd : Bytes
  device_blank : ∀ b ∈ device, isSpace b = true
  member_blank : ∀ b ∈ member, isSpace b = true
  value_blank : ∀ b ∈ value, isSpace b = true
  recordEnd_blank : ∀ b ∈ recordEnd, isSpace b = true
  storeEnd_blank : ∀ b ∈ storeEnd, isSpace b = true

namespace Layout

/-- No blanks. -/
def compact : Layout where
  device := []
  member := []
  value := []
  recordEnd := []
  storeEnd := []
  device_blank := isSpace_of_mem_nil
  member_blank := isSpace_of_mem_nil
  value_blank := isSpace_of_mem_nil
  recordEnd_blank := isSpace_of_mem_nil
  storeEnd_blank := isSpace_of_mem_nil

/-- A line for each member, indented by two blanks for each level. -/
def pretty : Layout where
  device := [0x0A, 0x20, 0x20]
  member := [0x0A, 0x20, 0x20, 0x20, 0x20]
  value := [0x20]
  recordEnd := [0x0A, 0x20, 0x20]
  storeEnd := [0x0A]
  device_blank := List.all_eq_true.mp rfl
  member_blank := List.all_eq_true.mp rfl
  value_blank := List.all_eq_true.mp rfl
  recordEnd_blank := List.all_eq_true.mp rfl
  storeEnd_blank := List.all_eq_true.mp rfl

variable (w : Layout)

/-- A record as it is written. -/
def record (r : KeyRecord) : Bytes :=
  0x7B :: (w.member ++ (encode (quoted manufacturerIdName) ++ 0x3A :: (w.value ++
    (encode (quoted r.manufacturerId) ++ 0x2C :: (w.member ++ (encode (quoted keyName) ++ 0x3A ::
      (w.value ++ (encode (quoted r.key.toHex) ++ (w.recordEnd ++ [0x7D])))))))))

/-- A device and its record as they are written. -/
def entry (e : String × KeyRecord) : Bytes :=
  w.device ++ (encode (quoted e.1) ++ 0x3A :: (w.value ++ w.record e.2))

/-- The devices of a store with a comma between them, and the blanks behind them. -/
def entries : List (String × KeyRecord) → Bytes
  | [] => []
  | e :: rest => w.entry e ++ (rest.flatMap (fun e => 0x2C :: w.entry e) ++ w.storeEnd)

/-- A store as it is written. -/
def store (s : KeyStore) : Bytes := 0x7B :: (w.entries s.entries ++ [0x7D])

end Layout

/-! ## 3. Records -/

theorem readKey_quoted {ws : Bytes} (hw : ∀ b ∈ ws, isSpace b = true) (k : DeviceKey)
    (r : Bytes) : readKey (ws ++ (encode (quoted k.toHex) ++ r)) = .ok (k, r) := by
  unfold readKey
  rw [readText_quoted hw]
  simp only [placing, bind, Except.bind, DeviceKey.ofHex_toHex]

theorem readMember_manufacturer {ws : Bytes} (hw : ∀ b ∈ ws, isSpace b = true) (m : String)
    (k : Option DeviceKey) (r : Bytes) :
    readMember ⟨none, k⟩ manufacturerIdName (0x3A :: (ws ++ (encode (quoted m) ++ r))) =
      .ok (⟨some m, k⟩, r) := by
  unfold readMember
  simp only [if_true, Option.isSome_none, Bool.false_eq_true, if_false, readColon_colon, placing,
    bind, Except.bind, readText_quoted hw]

theorem readMember_key {ws : Bytes} (hw : ∀ b ∈ ws, isSpace b = true) (m : Option String)
    (k : DeviceKey) (r : Bytes) :
    readMember ⟨m, none⟩ keyName (0x3A :: (ws ++ (encode (quoted k.toHex) ++ r))) =
      .ok (⟨m, some k⟩, r) := by
  unfold readMember
  have hne : keyName ≠ manufacturerIdName := by decide
  simp only [hne, if_true, Option.isSome_none, Bool.false_eq_true, if_false, readColon_colon,
    placing, bind, Except.bind, readKey_quoted hw]

/-- One round of the reading of a record, for a member that reads well. -/
theorem readMembers_step {n : Nat} {first : Bool} {p p' : PartialRecord} {s r r' : Bytes}
    {name : String}
    (hn : nextMember first s = .ok (true, encode (name.toList.flatMap escaped) ++ 0x22 :: r))
    (hm : readMember p name r = .ok (p', r')) :
    readMembers (n + 1) first p s = readMembers n false p' r' := by
  rw [readMembers, hn]
  simp only [placing, bind, Except.bind, if_true, readString_quoted, hm]

theorem readMembers_end {n : Nat} {first : Bool} {p : PartialRecord} {s r : Bytes}
    (hn : nextMember first s = .ok (false, r)) : readMembers (n + 1) first p s = .ok (p, r) := by
  rw [readMembers, hn]
  rfl

/-- The bytes of a written record after its opening brace, in front of any others. -/
def Layout.members (w : Layout) (record : KeyRecord) (r : Bytes) : Bytes :=
  w.member ++ (encode (quoted manufacturerIdName) ++ 0x3A :: (w.value ++
    (encode (quoted record.manufacturerId) ++ 0x2C :: (w.member ++ (encode (quoted keyName) ++
      0x3A :: (w.value ++ (encode (quoted record.key.toHex) ++ (w.recordEnd ++ 0x7D :: r))))))))

theorem Layout.record_append (w : Layout) (record : KeyRecord) (r : Bytes) :
    w.record record ++ r = 0x7B :: w.members record r := by
  simp only [Layout.record, Layout.members, List.append_assoc, List.cons_append, List.nil_append]

theorem readObjectRecord_members (w : Layout) (record : KeyRecord) (r : Bytes) :
    readObjectRecord (w.members record r) = .ok (record, r) := by
  obtain ⟨n, hn⟩ : ∃ n, (w.members record r).length + 1 = n + 3 := by
    refine ⟨(w.members record r).length - 2, ?_⟩
    simp only [Layout.members, encode_quoted, List.length_append, List.length_cons]
    omega
  unfold readObjectRecord
  rw [hn, Layout.members,
    readMembers_step (nextMember_first w.member_blank manufacturerIdName _)
      (readMember_manufacturer w.value_blank record.manufacturerId none _),
    readMembers_step (nextMember_next w.member_blank keyName _)
      (readMember_key w.value_blank (some record.manufacturerId) record.key _),
    readMembers_end (nextMember_end w.recordEnd_blank false r)]
  rfl

theorem readRecord_written (w : Layout) (record : KeyRecord) (r : Bytes) :
    readRecord (w.value ++ (w.record record ++ r)) = .ok (record, r) := by
  unfold readRecord
  rw [Layout.record_append, skipSpace_blanks w.value_blank (by decide)]
  simp only [if_true, readObjectRecord_members]
  rfl

/-! ## 4. Stores -/

/-- One round of the reading of a store, for a device whose record reads well. -/
theorem readDevices_step {n : Nat} {first : Bool} {store : KeyStore} {s r r' : Bytes}
    {id : String} {record : KeyRecord}
    (hn : nextMember first s =
      .ok (true, encode (id.toList.flatMap escaped) ++ 0x22 :: 0x3A :: r))
    (hr : readRecord r = .ok (record, r')) :
    readDevices (n + 1) first store s = readDevices n false (store.put id record) r' := by
  rw [readDevices, hn]
  simp only [bind, Except.bind, if_true, readString_quoted, readColon_colon, hr]

theorem readDevices_end {n : Nat} {first : Bool} {store : KeyStore} {s r : Bytes}
    (hn : nextMember first s = .ok (false, 0x7D :: r)) :
    readDevices (n + 1) first store s = .ok (store, r) := by
  rw [readDevices, hn]
  rfl

theorem Layout.entry_append (w : Layout) (e : String × KeyRecord) (r : Bytes) : w.entry e ++ r =
    w.device ++ (encode (quoted e.1) ++ 0x3A :: (w.value ++ (w.record e.2 ++ r))) := by
  simp only [Layout.entry, List.append_assoc, List.cons_append]

theorem readDevices_first (w : Layout) (n : Nat) (store : KeyStore) (e : String × KeyRecord)
    (r : Bytes) : readDevices (n + 1) true store (w.entry e ++ r) =
      readDevices n false (store.put e.1 e.2) r := by
  rw [w.entry_append]
  exact readDevices_step (nextMember_first w.device_blank e.1 _) (readRecord_written w e.2 r)

theorem readDevices_next (w : Layout) (n : Nat) (store : KeyStore) (e : String × KeyRecord)
    (r : Bytes) : readDevices (n + 1) false store (0x2C :: (w.entry e ++ r)) =
      readDevices n false (store.put e.1 e.2) r := by
  rw [w.entry_append]
  exact readDevices_step (nextMember_next w.device_blank e.1 _) (readRecord_written w e.2 r)

/-- The devices after the first one. -/
theorem readDevices_rest (w : Layout) (r : Bytes) : ∀ (l : List (String × KeyRecord)) (n : Nat)
    (store : KeyStore), l.length < n →
    readDevices n false store
        (l.flatMap (fun e => 0x2C :: w.entry e) ++ (w.storeEnd ++ 0x7D :: r)) =
      .ok (l.foldl (fun s e => s.put e.1 e.2) store, r)
  | [], n + 1, store, _ => readDevices_end (nextMember_end w.storeEnd_blank false r)
  | e :: l, n + 1, store, h => by
    rw [List.flatMap_cons, List.append_assoc, List.cons_append, readDevices_next]
    exact readDevices_rest w r l n _ (Nat.lt_of_succ_lt_succ h)

theorem readDevices_written (w : Layout) (r : Bytes) : ∀ (l : List (String × KeyRecord)) (n : Nat),
    l.length < n → readDevices n true KeyStore.empty (w.entries l ++ 0x7D :: r) =
      .ok (KeyStore.ofList l, r)
  | [], n + 1, _ => readDevices_end (nextMember_end isSpace_of_mem_nil true r)
  | e :: l, n + 1, h => by
    rw [Layout.entries, List.append_assoc, List.append_assoc, readDevices_first]
    exact readDevices_rest w r l n _ (Nat.lt_of_succ_lt_succ h)

theorem Layout.entry_pos (w : Layout) (e : String × KeyRecord) : 0 < (w.entry e).length := by
  simp only [Layout.entry, encode_quoted, List.length_append, List.length_cons]
  omega

/-- The text of the devices is at least as long as their list. -/
theorem Layout.length_le_entries (w : Layout) : ∀ l : List (String × KeyRecord),
    l.length ≤ (w.entries l).length
  | [] => Nat.le_refl 0
  | e :: l => by
    have hl : l.length ≤ (l.flatMap fun e => 0x2C :: w.entry e).length := by
      induction l with
      | nil => exact Nat.le_refl 0
      | cons f l ih => simp only [List.flatMap_cons, List.length_append, List.length_cons]; omega
    have he := w.entry_pos e
    simp only [Layout.entries, List.length_append, List.length_cons]
    omega

/-! ## 5. The store that was written -/

namespace KeyStore

/-- A written store reads back, with the bytes that follow it. -/
theorem readStore_written (w : Layout) (s : KeyStore) (r : Bytes) :
    readStore (w.store s ++ r) = .ok (s, r) := by
  have hn : s.entries.length < (w.entries s.entries ++ 0x7D :: r).length + 1 := by
    have := w.length_le_entries s.entries
    simp only [List.length_append, List.length_cons]
    omega
  unfold readStore Layout.store
  rw [List.cons_append, List.append_assoc, skipSpace_token (by decide)]
  simp only [if_true, List.cons_append, List.nil_append]
  rw [readDevices_written w r _ _ hn, ofList_entries]

theorem readDocument_written (w : Layout) (s : KeyStore) {ws : Bytes} (hw : skipSpace ws = []) :
    readDocument (w.store s ++ ws) = .ok s := by
  unfold readDocument
  rw [readStore_written]
  simp only [bind, Except.bind, hw]

end KeyStore

/-! ## 6. The two texts -/

theorem encode_joinChars (sep : List Char) : ∀ (x : List Char) (l : List (List Char)),
    encode (joinChars sep (x :: l)) = encode x ++ l.flatMap fun y => encode sep ++ encode y
  | x, [] => (List.append_nil _).symm
  | x, y :: l => by
    rw [joinChars, encode_append, encode_append, encode_joinChars sep y l, List.flatMap_cons,
      List.append_assoc, List.append_assoc]

theorem encode_compact (r : KeyRecord) : encode r.compact = Layout.compact.record r := by
  simp only [KeyRecord.compact, Layout.record, Layout.compact, encode_append, encode_cons,
    encode_nil, List.cons_append, List.nil_append, List.append_assoc]
  rfl

theorem encode_pretty (r : KeyRecord) : encode r.pretty = Layout.pretty.record r := by
  simp only [KeyRecord.pretty, Layout.record, Layout.pretty, encode_append, encode_cons,
    encode_nil, List.cons_append, List.nil_append, List.append_assoc]
  rfl

theorem encode_members {w : Layout} {sep : List Char} {f : String × KeyRecord → List Char}
    {g : Bytes} (hf : ∀ e, g ++ encode (f e) = w.entry e)
    (hsep : encode sep = 0x2C :: g) : ∀ (e : String × KeyRecord) (l : List (String × KeyRecord)),
    g ++ encode (joinChars sep ((e :: l).map f)) =
      w.entry e ++ l.flatMap fun e => 0x2C :: w.entry e := by
  intro e l
  have hg : (fun e => encode sep ++ encode (f e)) = fun e => 0x2C :: w.entry e := by
    funext e
    rw [hsep, ← hf, List.cons_append]
  rw [List.map_cons, encode_joinChars, ← List.append_assoc, hf, List.flatMap_map, hg]

namespace KeyStore

theorem encode_compactChars (s : KeyStore) : encode s.compactChars = Layout.compact.store s := by
  have hf : ∀ e : String × KeyRecord, [] ++ encode (Json.quoted e.1 ++ ':' :: e.2.compact) =
      Layout.compact.entry e := fun e => by
    rw [encode_append, encode_cons, encode_compact]
    rfl
  unfold compactChars Layout.store
  cases s.entries with
  | nil => rfl
  | cons e l =>
    rw [encode_append, encode_cons]
    show [0x7B] ++ ([] ++ encode (joinChars [','] _)) ++ [0x7D] = _
    rw [encode_members hf rfl]
    simp only [Layout.entries, List.append_assoc]
    rfl

theorem encode_prettyChars (s : KeyStore) : encode s.prettyChars = Layout.pretty.store s := by
  have hf : ∀ e : String × KeyRecord, [0x0A, 0x20, 0x20] ++
      encode (Json.quoted e.1 ++ ": ".toList ++ e.2.pretty) = Layout.pretty.entry e := fun e => by
    rw [encode_append, encode_append, encode_pretty]
    simp only [Layout.entry, Layout.pretty, List.append_assoc]
    rfl
  unfold prettyChars Layout.store
  cases s.entries with
  | nil => rfl
  | cons e l =>
    rw [if_neg (by simp), encode_append, encode_append, encode_cons, List.append_assoc _ _ (encode
      (joinChars _ _))]
    show [0x7B] ++ ([0x0A, 0x20, 0x20] ++ encode (joinChars ",\n  ".toList _)) ++ [0x0A, 0x7D] = _
    rw [encode_members hf rfl]
    simp only [Layout.entries, List.append_assoc]
    rfl

/-- **The compact text of a store reads back as the store.** -/
theorem ofJson_compact (s : KeyStore) : ofJson (ofString s.compact) = .ok s := by
  unfold ofJson ofString compact
  rw [String.toList_ofList, encode_compactChars, ← List.append_nil (Layout.compact.store s),
    readDocument_written _ s rfl]
  rfl

/-- **The pretty text of a store and a line feed read back as the store.** -/
theorem ofJson_saved (s : KeyStore) : ofJson s.saved = .ok s := by
  unfold ofJson saved
  rw [encode_append, encode_prettyChars, readDocument_written _ s rfl]
  rfl

end KeyStore

end DeviceKeys
