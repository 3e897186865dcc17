import DeviceKeys.Proofs.Text.Utf8
import DeviceKeys.Store.Document
import DeviceKeys.Store.KeyTable

/-! # A key table is read in one way

`KeyTable.TableForm` is the documented form of a key table: the line with the count, a row of
literals for each key, and the closing line. It asks no more of the numbers than that they are
numbers, so leading zeros, letters of either case and rows of any width are read as well.

* **`KeyTable.TableForm.unique`**: a text has that form with one count and one list of rows at most.
* **`KeyStore.tableForm_iff`**: the key table of a store has it, with the count of the devices and
  their keys in the order of the ids. So the table tells the keys and no more
  (`KeyStore.keyTable_eq_iff`).
* `KeyStore.ofJson_keyTable`: a key table is no key store document.
-/

namespace DeviceKeys

namespace KeyTable

/-! ## 1. The form -/

/-- The value of a byte that is a digit in front of a radix of at most 16. -/
def digitValue? (radix : Nat) (b : UInt8) : Option Nat := (hexValue? b).filter (· < radix)

/-- Digits, at least one, and their number. -/
inductive Digits (radix : Nat) : Bytes → Nat → Prop
  | one {b : UInt8} {d : Nat} (hb : digitValue? radix b = some d) : Digits radix [b] d
  | snoc {bs : Bytes} {n : Nat} {b : UInt8} {d : Nat} (h : Digits radix bs n)
      (hb : digitValue? radix b = some d) : Digits radix (bs ++ [b]) (n * radix + d)

/-- All digits that stand here, and their number. -/
def Numeral (radix : Nat) (s : Bytes) (n : Nat) (r : Bytes) : Prop :=
  ∃ bs, s = bs ++ r ∧ Digits radix bs n ∧ ∀ b ∈ r.head?, digitValue? radix b = none

/-- A hexadecimal literal of a byte. -/
def ByteForm (s : Bytes) (b : UInt8) (r : Bytes) : Prop :=
  ∃ t, s = Utf8.ofString "0x" ++ t ∧ Numeral 16 t b.toNat r

/-- Literals up to the closing brace, with a comma and a space between them. -/
inductive RowForm : Bytes → Bytes → Bytes → Prop
  | last {s r : Bytes} {b : UInt8} (h : ByteForm s b (Utf8.ofString "\x7d" ++ r)) : RowForm s [b] r
  | next {s t r row : Bytes} {b : UInt8} (h : ByteForm s b (Utf8.ofString ", " ++ t))
      (hrow : RowForm t row r) : RowForm s (b :: row) r

/-- Lines of rows, and the closing line. -/
inductive RowsForm : Bytes → List Bytes → Prop
  | close : RowsForm (Utf8.ofString "\x7d;\n") []
  | row {s t : Bytes} {row : Bytes} {rows : List Bytes}
      (h : RowForm s row (Utf8.ofString ",\n" ++ t)) (hrows : RowsForm t rows) :
      RowsForm (Utf8.ofString "    \x7b" ++ s) (row :: rows)

/-- A key table with a count and with rows. -/
def TableForm (text : Bytes) (count : Nat) (rows : List Bytes) : Prop :=
  ∃ s t, text = Utf8.ofString "uint8_t keys[" ++ s ∧
    Numeral 10 s count (Utf8.ofString "][32] = \x7b\n" ++ t) ∧ RowsForm t rows

/-! ## 2. One way to read it -/

variable {radix n m : Nat} {s r r' : Bytes}

theorem Digits.isSome {bs : Bytes} (h : Digits radix bs n) :
    ∀ b ∈ bs, (digitValue? radix b).isSome = true := by
  induction h with
  | one hb => simp [hb]
  | snoc _ hb ih =>
    intro b h
    rcases List.mem_append.mp h with h | h
    · exact ih b h
    · rw [List.mem_singleton.mp h, hb]
      rfl

theorem Digits.ne_nil {bs : Bytes} (h : Digits radix bs n) : bs ≠ [] := by
  cases h <;> simp

theorem Digits.unique {bs : Bytes} (h : Digits radix bs n) : Digits radix bs m → n = m := by
  induction h generalizing m with
  | @one b d hb =>
    intro h'
    generalize hbs : [b] = bs at h'
    cases h' with
    | one hb' =>
      cases hbs
      exact Option.some.inj (hb.symm.trans hb')
    | snoc h' _ =>
      obtain ⟨rfl, -⟩ | ⟨cs, -, hcs⟩ := List.append_eq_cons_iff.mp hbs.symm
      · exact absurd rfl h'.ne_nil
      · simp at hcs
  | @snoc bs n b d h hb ih =>
    intro h'
    generalize hbs : bs ++ [b] = cs at h'
    cases h' with
    | one _ =>
      obtain ⟨rfl, -⟩ | ⟨cs, -, hcs⟩ := List.append_eq_cons_iff.mp hbs
      · exact absurd rfl h.ne_nil
      · simp at hcs
    | snoc h' hb' =>
      obtain ⟨rfl, rfl⟩ := List.append_singleton_inj.mp hbs
      rw [ih h', Option.some.inj (hb.symm.trans hb')]

/-- Where the digits end is told by the digits. -/
theorem digits_append_inj : ∀ {bs bs' : Bytes}, (∀ b ∈ bs, (digitValue? radix b).isSome = true) →
    (∀ b ∈ bs', (digitValue? radix b).isSome = true) →
    (∀ b ∈ r.head?, digitValue? radix b = none) → (∀ b ∈ r'.head?, digitValue? radix b = none) →
    bs ++ r = bs' ++ r' → bs = bs' ∧ r = r'
  | [], [], _, _, _, _, h => ⟨rfl, h⟩
  | [], b :: bs', _, hbs', hr, _, h => by
    have := hbs' b List.mem_cons_self
    rw [hr b (by rw [show r = b :: (bs' ++ r') from h]; rfl)] at this
    cases this
  | b :: bs, [], hbs, _, _, hr', h => by
    have := hbs b List.mem_cons_self
    rw [hr' b (by rw [show r' = b :: (bs ++ r) from h.symm]; rfl)] at this
    cases this
  | b :: bs, b' :: bs', hbs, hbs', hr, hr', h => by
    obtain ⟨rfl, htail⟩ := List.cons.inj h
    obtain ⟨rfl, rfl⟩ := digits_append_inj (fun x hx => hbs x (List.mem_cons_of_mem _ hx))
      (fun x hx => hbs' x (List.mem_cons_of_mem _ hx)) hr hr' htail
    exact ⟨rfl, rfl⟩

theorem Numeral.unique (h : Numeral radix s n r) (h' : Numeral radix s m r') : n = m ∧ r = r' := by
  obtain ⟨bs, rfl, hbs, hr⟩ := h
  obtain ⟨bs', heq, hbs', hr'⟩ := h'
  obtain ⟨rfl, rfl⟩ := digits_append_inj hbs.isSome hbs'.isSome hr hr' heq
  exact ⟨hbs.unique hbs', rfl⟩

theorem ByteForm.unique {b b' : UInt8} (h : ByteForm s b r) (h' : ByteForm s b' r') :
    b = b' ∧ r = r' := by
  obtain ⟨t, rfl, ht⟩ := h
  obtain ⟨t', heq, ht'⟩ := h'
  obtain rfl := List.append_cancel_left heq
  obtain ⟨hb, hr⟩ := ht.unique ht'
  exact ⟨UInt8.toNat_inj.mp hb, hr⟩

theorem RowForm.unique {row row' : Bytes} (h : RowForm s row r) (h' : RowForm s row' r') :
    row = row' ∧ r = r' := by
  induction h generalizing row' r' with
  | last h =>
    cases h' with
    | last h' =>
      obtain ⟨rfl, hr⟩ := h.unique h'
      exact ⟨rfl, List.append_cancel_left hr⟩
    | next h' _ =>
      obtain ⟨-, hr⟩ := h.unique h'
      cases hr
  | next h _ ih =>
    cases h' with
    | last h' =>
      obtain ⟨-, hr⟩ := h.unique h'
      cases hr
    | next h' hrow' =>
      obtain ⟨rfl, hr⟩ := h.unique h'
      obtain rfl := List.append_cancel_left hr
      obtain ⟨rfl, rfl⟩ := ih hrow'
      exact ⟨rfl, rfl⟩

theorem RowsForm.unique {rows rows' : List Bytes} (h : RowsForm s rows) :
    RowsForm s rows' → rows = rows' := by
  induction h generalizing rows' with
  | close =>
    intro h'
    generalize hs : Utf8.ofString "\x7d;\n" = s at h'
    cases h' with
    | close => rfl
    | row _ _ => cases hs
  | @row s t row rows h _ ih =>
    intro h'
    generalize hs : Utf8.ofString "    \x7b" ++ s = text at h'
    cases h' with
    | close => cases hs
    | row h' hrows' =>
      obtain rfl := List.append_cancel_left hs
      obtain ⟨rfl, hr⟩ := h.unique h'
      obtain rfl := List.append_cancel_left hr
      rw [ih hrows']

/-- **A text is a key table in one way at most.** -/
theorem TableForm.unique {rows rows' : List Bytes} (h : TableForm s n rows)
    (h' : TableForm s m rows') : n = m ∧ rows = rows' := by
  obtain ⟨t, u, rfl, hn, hrows⟩ := h
  obtain ⟨t', u', heq, hm, hrows'⟩ := h'
  obtain rfl := List.append_cancel_left heq
  obtain ⟨rfl, hr⟩ := hn.unique hm
  obtain rfl := List.append_cancel_left hr
  exact ⟨rfl, hrows.unique hrows'⟩

/-! ## 3. What is written -/

theorem digitValue?_digitChar : ∀ d, d < 16 →
    digitValue? 16 (UInt8.ofNat d.digitChar.toNat) = some d ∧ d.digitChar.toNat < 0x80 := by
  decide

theorem digitValue?_of_lt {b : UInt8} {d : Nat} (h : digitValue? 16 b = some d) (hd : d < radix) :
    digitValue? radix b = some d := by
  unfold digitValue? at h ⊢
  rw [Option.filter_eq_some_iff] at h ⊢
  exact ⟨h.1, by simpa using hd⟩

/-- The digits of a number are read as the number. -/
theorem digits_toDigits (hl : 1 < radix) (hh : radix ≤ 16) (n : Nat) :
    Digits radix (Utf8.encode (Nat.toDigits radix n)) n := by
  have digit {d : Nat} (hd : d < radix) :
      Utf8.encode [d.digitChar] = [UInt8.ofNat d.digitChar.toNat] ∧
        digitValue? radix (UInt8.ofNat d.digitChar.toNat) = some d := by
    obtain ⟨hv, hlt⟩ := digitValue?_digitChar d (by omega)
    refine ⟨?_, digitValue?_of_lt hv hd⟩
    rw [Utf8.encode_cons, Utf8.encodeChar_of_lt hlt]
    rfl
  induction n using Nat.strongRecOn with
  | ind n ih =>
    rw [Nat.toDigits_eq_if hl]
    split
    · rename_i hn
      obtain ⟨he, hv⟩ := digit hn
      rw [he]
      exact .one hv
    · rename_i hn
      obtain ⟨he, hv⟩ := digit (Nat.mod_lt n (by omega))
      have h := (ih (n / radix) (Nat.div_lt_self (by omega) hl)).snoc hv
      rw [Utf8.encode_append, he]
      rwa [Nat.div_add_mod'] at h

theorem numeral_toDigits (hl : 1 < radix) (hh : radix ≤ 16) (n : Nat)
    (hr : ∀ b ∈ r.head?, digitValue? radix b = none) :
    Numeral radix (Utf8.encode (Nat.toDigits radix n) ++ r) n r :=
  ⟨_, rfl, digits_toDigits hl hh n, hr⟩

theorem byteForm_byteLiteral (b : UInt8) (hr : ∀ c ∈ r.head?, digitValue? 16 c = none) :
    ByteForm (Utf8.ofString (byteLiteral b) ++ r) b r := by
  refine ⟨Utf8.encode (Nat.toDigits 16 b.toNat) ++ r, ?_,
    numeral_toDigits (by omega) (by omega) _ hr⟩
  have hdigits : Utf8.ofString (Text.hexNumber b.toNat) =
      Utf8.encode (Nat.toDigits 16 b.toNat) := by
    unfold Utf8.ofString Text.hexNumber
    rw [String.toList_ofList]
  unfold byteLiteral
  rw [Utf8.ofString_append, List.append_assoc, hdigits]

/-- The literals of bytes, of which there is one at least. -/
theorem rowForm_literals (r : Bytes) : ∀ (b : UInt8) (bs : Bytes),
    RowForm (Utf8.ofString (String.intercalate ", " ((b :: bs).map byteLiteral)) ++
      (Utf8.ofString "\x7d" ++ r)) (b :: bs) r
  | b, [] => by
    refine .last ?_
    rw [List.map_singleton, String.intercalate_singleton]
    exact byteForm_byteLiteral b (by rintro _ ⟨⟩; decide)
  | b, c :: bs => by
    refine .next ?_ (rowForm_literals r c bs)
    rw [List.map_cons, List.map_cons, String.intercalate_cons_cons, Utf8.ofString_append,
      Utf8.ofString_append, List.append_assoc, List.append_assoc]
    exact byteForm_byteLiteral b (by rintro _ ⟨⟩; decide)

theorem ofString_row (k : DeviceKey) : Utf8.ofString k.row = Utf8.ofString "    \x7b" ++
    (Utf8.ofString k.literals ++ (Utf8.ofString "\x7d" ++ Utf8.ofString ",\n")) := by
  unfold DeviceKey.row
  rw [Utf8.ofString_append, Utf8.ofString_append, List.append_assoc]
  rfl

theorem rowsForm_rows : ∀ keys : List DeviceKey,
    RowsForm (Utf8.ofString (String.join (keys.map DeviceKey.row)) ++ Utf8.ofString "\x7d;\n")
      (keys.map DeviceKey.bytes)
  | [] => .close
  | k :: keys => by
    obtain ⟨b, bs, hbs⟩ : ∃ b bs, k.bytes = b :: bs :=
      List.exists_cons_of_ne_nil fun h => by simpa [h, keyLength] using k.length_eq
    have hrow := rowForm_literals (Utf8.ofString ",\n" ++
      (Utf8.ofString (String.join (keys.map DeviceKey.row)) ++ Utf8.ofString "\x7d;\n")) b bs
    rw [← hbs] at hrow
    have h := RowsForm.row hrow (rowsForm_rows keys)
    rw [List.map_cons, List.map_cons, String.join_cons, Utf8.ofString_append, ofString_row,
      DeviceKey.literals]
    simpa only [List.append_assoc] using h

end KeyTable

/-! ## 4. The table of a store -/

namespace KeyStore

open KeyTable

theorem tableForm_keyTable (s : KeyStore) :
    TableForm (Utf8.ofString s.keyTable) s.size (s.keys.map DeviceKey.bytes) := by
  refine ⟨Utf8.encode (Nat.toDigits 10 s.size) ++ (Utf8.ofString "][32] = \x7b\n" ++ _), _, ?_,
    numeral_toDigits (by omega) (by omega) _ (by rintro _ ⟨⟩; decide), rowsForm_rows s.keys⟩
  have hsize : Utf8.ofString (toString s.size) = Utf8.encode (Nat.toDigits 10 s.size) := by
    unfold Utf8.ofString
    rw [show toString s.size = s.size.repr from rfl, Nat.toList_repr]
  have hline : Utf8.ofString "][" ++ (Utf8.ofString (toString keyLength) ++
      Utf8.ofString "] = \x7b\n") = Utf8.ofString "][32] = \x7b\n" := by decide +kernel
  unfold keyTable
  simp only [Utf8.ofString_append, List.append_assoc]
  rw [hsize, ← hline]
  simp only [List.append_assoc]

/-- **The key table of a store is read as the keys in the order of the ids**, and in no other
    way. -/
theorem tableForm_iff {s : KeyStore} {count : Nat} {rows : List Bytes} :
    TableForm (Utf8.ofString s.keyTable) count rows ↔
      count = s.size ∧ rows = s.keys.map DeviceKey.bytes := by
  constructor
  · intro h
    exact h.unique s.tableForm_keyTable
  · rintro ⟨rfl, rfl⟩
    exact s.tableForm_keyTable

/-- The table tells the keys and no more. -/
theorem keyTable_eq_iff {s t : KeyStore} : s.keyTable = t.keyTable ↔ s.keys = t.keys := by
  constructor
  · intro h
    obtain ⟨-, hrows⟩ := tableForm_iff.mp (h ▸ s.tableForm_keyTable)
    exact (List.map_inj_right fun j k hjk => by cases j; cases k; cases hjk; rfl).mp hrows
  · intro h
    have hsize : s.size = t.size := by
      have := congrArg List.length h
      simpa [keys, size] using this
    unfold keyTable
    rw [hsize, h]

/-- A key table is no key store document. -/
theorem ofJson_keyTable (s t : KeyStore) : ofJson (Utf8.ofString s.keyTable) ≠ .ok t := by
  obtain ⟨r, -, hs, -⟩ := s.tableForm_keyTable
  rw [hs]
  intro h
  cases h

end KeyStore

end DeviceKeys
