import DeviceKeys.Proofs.Key

/-! # Which texts are keys, and what is wrong with the others

A text is a key just when its bytes are 64 hexadecimal digits, of either case. Of any other text
`DeviceKey.ofHex` tells the first of three things that are wrong: an odd count of bytes, a wrong
count, or the first byte that is no digit.

* `IsHexDigit`: a byte is such a digit. `FirstOther`: the first byte of a text that is none, and
  where it stands; a text has one, or it has only digits (`FirstOther.exists_or_all`).
* `readPairs_of_firstOther`: reading in pairs stops at that byte, whichever half of a pair it is.
* `ofHexBytes_reads`: the ways in which a text reads (`Reads`).
* `DeviceKey.ofHex_decides`: which texts are keys, and which fault each other text has.
-/

namespace DeviceKeys

variable {s : Bytes} {a b c : UInt8} {i j : Nat}

/-! ## 1. Digits -/

/-- A byte is a hexadecimal digit of either case. -/
def IsHexDigit (b : UInt8) : Prop := b ∈ Utf8.ofString "0123456789abcdefABCDEF"

instance (b : UInt8) : Decidable (IsHexDigit b) :=
  inferInstanceAs (Decidable (b ∈ Utf8.ofString "0123456789abcdefABCDEF"))

theorem isHexDigit_of_lt : ∀ n : Nat, n < 256 →
    (IsHexDigit (UInt8.ofNat n) ↔ (hexValue? (UInt8.ofNat n)).isSome = true) := by
  decide +kernel

/-- The digits are the bytes that have a value. -/
theorem isHexDigit_iff : IsHexDigit b ↔ ∃ n, hexValue? b = some n := by
  have h := isHexDigit_of_lt b.toNat b.toNat_lt
  rwa [UInt8.ofNat_toNat, Option.isSome_iff_exists] at h

theorem hexValue?_eq_none (h : ¬IsHexDigit b) : hexValue? b = none := by
  rw [isHexDigit_iff, ← Option.isSome_iff_exists] at h
  exact Option.not_isSome_iff_eq_none.mp h

/-! ## 2. The first byte that is no digit -/

/-- `b` is the first byte of a text that is no digit, and it stands at the index `j`. -/
structure FirstOther (s : Bytes) (j : Nat) (b : UInt8) : Prop where
  at_index : s[j]? = some b
  no_digit : ¬IsHexDigit b
  digits_before : ∀ c ∈ s.take j, IsHexDigit c

namespace FirstOther

theorem head (h : ¬IsHexDigit a) (s : Bytes) : FirstOther (a :: s) 0 a where
  at_index := rfl
  no_digit := h
  digits_before := by simp

theorem cons (ha : IsHexDigit a) (h : FirstOther s j b) : FirstOther (a :: s) (j + 1) b where
  at_index := h.at_index
  no_digit := h.no_digit
  digits_before := by
    intro c hc
    rw [List.take_succ_cons, List.mem_cons] at hc
    rcases hc with rfl | hc
    · exact ha
    · exact h.digits_before c hc

/-- Either the first byte is the one, or it is a digit and the one stands behind it. -/
theorem cons_cases (h : FirstOther (a :: s) j b) :
    j = 0 ∧ b = a ∨ ∃ k, j = k + 1 ∧ IsHexDigit a ∧ FirstOther s k b := by
  obtain ⟨hat, hno, hbefore⟩ := h
  cases j with
  | zero => exact .inl ⟨rfl, (Option.some.inj hat).symm⟩
  | succ k =>
    rw [List.take_succ_cons] at hbefore
    exact .inr ⟨k, rfl, hbefore a List.mem_cons_self, hat, hno,
      fun c hc => hbefore c (List.mem_cons_of_mem a hc)⟩

theorem exists_or_all : ∀ s : Bytes, (∃ j b, FirstOther s j b) ∨ ∀ b ∈ s, IsHexDigit b
  | [] => .inr (by simp)
  | a :: s => by
    by_cases ha : IsHexDigit a
    · rcases exists_or_all s with ⟨j, b, h⟩ | h
      · exact .inl ⟨j + 1, b, h.cons ha⟩
      · exact .inr (List.forall_mem_cons.mpr ⟨ha, h⟩)
    · exact .inl ⟨0, a, head ha s⟩

/-- A text that has one has not only digits. -/
theorem not_all (h : FirstOther s j b) : ¬∀ b ∈ s, IsHexDigit b := fun hall =>
  h.no_digit (hall b (List.mem_of_getElem? h.at_index))

theorem unique (h : FirstOther s j b) (k : FirstOther s i c) : j = i ∧ b = c := by
  -- neither can stand in front of the other
  have hle : ∀ {j i : Nat} {b c : UInt8}, FirstOther s j b → FirstOther s i c → i ≤ j :=
    fun {j i b c} h k => Nat.not_lt.mp fun hlt => h.no_digit (k.digits_before b
      (List.mem_of_getElem? (i := j) (by rw [List.getElem?_take_of_lt hlt, h.at_index])))
  obtain rfl : j = i := Nat.le_antisymm (hle k h) (hle h k)
  exact ⟨rfl, Option.some.inj (h.at_index.symm.trans k.at_index)⟩

end FirstOther

/-! ## 3. Reading in pairs -/

theorem readPairs_of_all : ∀ {s : Bytes} (i : Nat), (∀ b ∈ s, IsHexDigit b) →
    ∃ out, readPairs i s = .ok out
  | [], _, _ => ⟨[], rfl⟩
  | [_], _, _ => ⟨[], rfl⟩
  | a :: c :: rest, i, h => by
    obtain ⟨ha, hc, hrest⟩ := by simpa only [List.forall_mem_cons] using h
    obtain ⟨m, hm⟩ := isHexDigit_iff.mp ha
    obtain ⟨n, hn⟩ := isHexDigit_iff.mp hc
    obtain ⟨out, hout⟩ := readPairs_of_all (i + 2) hrest
    exact ⟨_, by rw [readPairs, hm, hn, hout]; rfl⟩

/-- **Reading in pairs stops at the first byte that is no digit.** -/
theorem readPairs_of_firstOther : ∀ {s : Bytes} {j : Nat} {b : UInt8} (i : Nat),
    s.length % 2 = 0 → FirstOther s j b → readPairs i s = .error (.notDigit b (i + j))
  | [], _, _, _, _, h => by cases h.at_index
  | [_], _, _, _, heven, _ => by simp at heven
  | a :: c :: rest, j, b, i, heven, h => by
    rcases h.cons_cases with ⟨rfl, rfl⟩ | ⟨k, rfl, ha, h⟩
    · rw [readPairs, hexValue?_eq_none h.no_digit]
      rfl
    obtain ⟨m, hm⟩ := isHexDigit_iff.mp ha
    rcases h.cons_cases with ⟨rfl, rfl⟩ | ⟨k, rfl, hc, h⟩
    · rw [readPairs, hm, hexValue?_eq_none h.no_digit]
    obtain ⟨n, hn⟩ := isHexDigit_iff.mp hc
    have heven : rest.length % 2 = 0 := by
      simp only [List.length_cons] at heven
      omega
    rw [readPairs, hm, hn, readPairs_of_firstOther (i + 2) heven h,
      show i + 2 + k = i + (k + 1 + 1) by omega]
    rfl

/-! ## 4. The ways in which a text reads -/

/-- The ways in which the bytes of a text read as a key. -/
inductive Reads (s : Bytes) : Except HexFault DeviceKey → Prop
  | odd (length : s.length % 2 = 1) : Reads s (.error .oddLength)
  | wrong (even : s.length % 2 = 0) (length : s.length ≠ 64) : Reads s (.error .wrongLength)
  | other {j : Nat} {b : UInt8} (length : s.length = 64) (first : FirstOther s j b) :
      Reads s (.error (.notDigit b j))
  | key {k : DeviceKey} (length : s.length = 64) (digits : ∀ b ∈ s, IsHexDigit b) :
      Reads s (.ok k)

theorem ofHexBytes_reads (s : Bytes) : Reads s (DeviceKey.ofHexBytes s) := by
  unfold DeviceKey.ofHexBytes
  split
  · exact .odd (by omega)
  rename_i heven
  have heven : s.length % 2 = 0 := by omega
  split
  · rename_i hlen
    exact .wrong heven fun h => hlen (by rw [h]; rfl)
  rename_i hlen
  have hlen : s.length = 64 := by
    have h : s.length / 2 = 32 := Classical.not_not.mp hlen
    omega
  rcases FirstOther.exists_or_all s with ⟨j, b, hfirst⟩ | hall
  · have hr := readPairs_of_firstOther 0 heven hfirst
    rw [Nat.zero_add] at hr
    split
    · rename_i hr'
      cases hr.symm.trans hr'
      exact .other hlen hfirst
    · rename_i hr'
      cases hr.symm.trans hr'
  · obtain ⟨out, hr⟩ := readPairs_of_all 0 hall
    split
    · rename_i hr'
      cases hr.symm.trans hr'
    · exact .key hlen hall

namespace Reads

variable {r : Except HexFault DeviceKey} (h : Reads s r)
include h

theorem ok_iff : (∃ k, r = .ok k) ↔ s.length = 64 ∧ ∀ b ∈ s, IsHexDigit b := by
  cases h with
  | odd hlen => exact ⟨nofun, fun ⟨h64, _⟩ => by omega⟩
  | wrong _ hlen => exact ⟨nofun, fun ⟨h64, _⟩ => absurd h64 hlen⟩
  | other _ hfirst => exact ⟨nofun, fun ⟨_, hall⟩ => absurd hall hfirst.not_all⟩
  | key hlen hall => exact ⟨fun _ => ⟨hlen, hall⟩, fun _ => ⟨_, rfl⟩⟩

theorem oddLength_iff : r = .error .oddLength ↔ s.length % 2 = 1 := by
  cases h with
  | odd hlen => exact ⟨fun _ => hlen, fun _ => rfl⟩
  | wrong heven _ => exact ⟨nofun, fun hodd => by omega⟩
  | other hlen _ | key hlen _ => exact ⟨nofun, fun hodd => by omega⟩

theorem wrongLength_iff : r = .error .wrongLength ↔ s.length % 2 = 0 ∧ s.length ≠ 64 := by
  cases h with
  | odd hlen => exact ⟨nofun, fun ⟨heven, _⟩ => by omega⟩
  | wrong heven hlen => exact ⟨fun _ => ⟨heven, hlen⟩, fun _ => rfl⟩
  | other hlen _ | key hlen _ => exact ⟨nofun, fun ⟨_, hne⟩ => absurd hlen hne⟩

theorem notDigit_iff : r = .error (.notDigit b j) ↔ s.length = 64 ∧ FirstOther s j b := by
  cases h with
  | odd hlen => exact ⟨nofun, fun ⟨h64, _⟩ => by omega⟩
  | wrong _ hlen => exact ⟨nofun, fun ⟨h64, _⟩ => absurd h64 hlen⟩
  | @other i c hlen hfirst =>
    constructor
    · intro heq
      cases heq
      exact ⟨hlen, hfirst⟩
    · rintro ⟨-, hfirst'⟩
      obtain ⟨rfl, rfl⟩ := hfirst.unique hfirst'
      rfl
  | key _ hall => exact ⟨nofun, fun ⟨_, hfirst⟩ => absurd hall hfirst.not_all⟩

end Reads

namespace DeviceKey

/-- The digits of a key are lowercase, and there are 64. -/
theorem hexChars_eq (k : DeviceKey) : k.hexChars.length = 64 ∧
    ∀ c ∈ k.hexChars, c ∈ "0123456789abcdef".toList := by
  have hdigit : ∀ n : Nat, n < 16 → hexDigit n ∈ "0123456789abcdef".toList := by decide
  constructor
  · have hk : k.bytes.length = 32 := k.length_eq
    simp [hexChars, hexPair, List.length_flatMap, List.map_const', hk]
  · intro c hc
    obtain ⟨b, -, hc⟩ := List.mem_flatMap.mp hc
    have hb := b.toNat_lt
    simp only [hexPair, List.mem_cons, List.not_mem_nil, or_false] at hc
    rcases hc with rfl | rfl
    · exact hdigit _ (by omega)
    · exact hdigit _ (by omega)

/-- **Which texts are keys.** A text is a key just when it has 64 bytes that are all hexadecimal
    digits; the text of that key is then the same with the letters in lowercase, and of no other key
    is it that. Any other text has one fault: it is the odd count of its bytes, or else the wrong
    count, or else the first byte that is no digit, with its index. The text of a key has 64
    lowercase digits, and reads back as the key. -/
theorem ofHex_decides (s : String) :
    ((∃ k, ofHex s = .ok k) ↔ s.utf8ByteSize = 64 ∧ ∀ b ∈ Utf8.ofString s, IsHexDigit b) ∧
    (∀ k, ofHex s = .ok k ↔ k.toHex = s.map Char.toLower) ∧
    (ofHex s = .error .oddLength ↔ s.utf8ByteSize % 2 = 1) ∧
    (ofHex s = .error .wrongLength ↔ s.utf8ByteSize % 2 = 0 ∧ s.utf8ByteSize ≠ 64) ∧
    (∀ b j, ofHex s = .error (.notDigit b j) ↔
      s.utf8ByteSize = 64 ∧ FirstOther (Utf8.ofString s) j b) ∧
    ∀ k : DeviceKey, k.toHex.length = 64 ∧ (∀ c ∈ k.toHex.toList, c ∈ "0123456789abcdef".toList) ∧
      ofHex k.toHex = .ok k := by
  have hreads : Reads (Utf8.ofString s) (ofHex s) := ofHexBytes_reads _
  rw [← Utf8.length_ofString]
  refine ⟨hreads.ok_iff, fun k => ?_, hreads.oddLength_iff, hreads.wrongLength_iff,
    fun b j => hreads.notDigit_iff, fun k => ?_⟩
  · rw [ofHex_eq_ok_iff, ← String.toList_inj, String.toList_map, toHex, String.toList_ofList]
    exact eq_comm
  · obtain ⟨hlen, hdigits⟩ := hexChars_eq k
    refine ⟨?_, ?_, ofHex_toHex k⟩
    · rwa [toHex, String.length_ofList]
    · rwa [toHex, String.toList_ofList]

/-- The index counts bytes, and the byte is the first one of a character. -/
example : ofHex (String.ofList ('0' :: 'é' :: List.replicate 61 '0')) =
    .error (.notDigit 0xC3 1) := by
  rfl

end DeviceKey

end DeviceKeys
