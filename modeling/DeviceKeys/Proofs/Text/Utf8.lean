import DeviceKeys.Text.Utf8

/-! # What is written as UTF-8 reads back

The machine of `Utf8.advance` takes the bytes that `String.utf8EncodeChar` writes for a character
to that character (`decodeFrom_encodeChar`): the bounds that the first byte sets for the second
hold for every value a character can have. So `decode` undoes `encode` (`decode_encode`), and each
byte of a character past U+007F is at least 0x80 (`le_of_mem_encodeChar`).
-/

namespace DeviceKeys.Utf8

theorem within_iff (p : Pending) (b : UInt8) :
    (p.low ≤ b ∧ b ≤ p.high) ↔ p.low.toNat ≤ b.toNat ∧ b.toNat ≤ p.high.toNat :=
  and_congr UInt8.le_iff_toNat_le UInt8.le_iff_toNat_le

theorem ofString_append (s t : String) : ofString (s ++ t) = ofString s ++ ofString t := by
  unfold ofString
  rw [String.toList_append, encode_append]

/-- The bytes of a text are as many as the text says. -/
theorem length_ofString (s : String) : (ofString s).length = s.utf8ByteSize := by
  have hsize : s.utf8ByteSize = (String.ofList s.toList).toByteArray.size := by
    rw [String.ofList_toList, String.size_toByteArray]
  rw [hsize, String.toByteArray_ofList, List.utf8Encode, List.size_toByteArray]
  rfl

/-! ## 1. The bytes of a character -/

/-- The values of a character: no surrogate, and none past U+10FFFF. -/
theorem toNat_range (c : Char) :
    c.toNat < 0xD800 ∨ 0xDFFF < c.toNat ∧ c.toNat < 0x110000 := c.valid

theorem encodeChar_eq (c : Char) : String.utf8EncodeChar c =
    if c.toNat ≤ 0x7F then [UInt8.ofNat c.toNat]
    else if c.toNat ≤ 0x7FF then
      [UInt8.ofNat (c.toNat / 64 % 32 + 0xC0), UInt8.ofNat (c.toNat % 64 + 0x80)]
    else if c.toNat ≤ 0xFFFF then
      [UInt8.ofNat (c.toNat / 4096 % 16 + 0xE0), UInt8.ofNat (c.toNat / 64 % 64 + 0x80),
        UInt8.ofNat (c.toNat % 64 + 0x80)]
    else
      [UInt8.ofNat (c.toNat / 262144 % 8 + 0xF0), UInt8.ofNat (c.toNat / 4096 % 64 + 0x80),
        UInt8.ofNat (c.toNat / 64 % 64 + 0x80), UInt8.ofNat (c.toNat % 64 + 0x80)] := rfl

theorem encodeChar_of_lt {c : Char} (hc : c.toNat < 0x80) :
    String.utf8EncodeChar c = [UInt8.ofNat c.toNat] := by
  rw [encodeChar_eq, if_pos (by omega)]

/-- A character past U+007F has no byte below 0x80. -/
theorem le_of_mem_encodeChar {c : Char} (hc : 0x80 ≤ c.toNat) {b : UInt8}
    (hb : b ∈ String.utf8EncodeChar c) : 0x80 ≤ b.toNat := by
  have hh {n : Nat} (hl : 0x80 ≤ n) (hn : n < 256) : 0x80 ≤ (UInt8.ofNat n).toNat := by
    rwa [UInt8.toNat_ofNat_of_lt' hn]
  rw [encodeChar_eq, if_neg (by omega)] at hb
  split at hb
  · simp only [List.mem_cons, List.not_mem_nil, or_false] at hb
    rcases hb with rfl | rfl <;> exact hh (by omega) (by omega)
  split at hb
  · simp only [List.mem_cons, List.not_mem_nil, or_false] at hb
    rcases hb with rfl | rfl | rfl <;> exact hh (by omega) (by omega)
  · simp only [List.mem_cons, List.not_mem_nil, or_false] at hb
    rcases hb with rfl | rfl | rfl | rfl <;> exact hh (by omega) (by omega)

/-! ## 2. The machine on them -/

/-- A byte in the bounds ends a character of which one byte is owed. -/
theorem advance_last {p : Pending} {n : Nat} {c : Char} (hn : n < 64)
    (hl : p.low.toNat ≤ n + 0x80) (hh : n + 0x80 ≤ p.high.toNat) (ho : p.owed ≤ 1)
    (hv : p.value * 64 + n = c.toNat) : advance (some p) (UInt8.ofNat (n + 0x80)) = .char c := by
  have hb : (UInt8.ofNat (n + 0x80)).toNat = n + 0x80 :=
    UInt8.toNat_ofNat_of_lt' (show _ < 256 by omega)
  show next p _ = _
  unfold next
  rw [if_pos ((within_iff p _).mpr (by rw [hb]; exact ⟨hl, hh⟩))]
  simp only [hb, Nat.add_sub_cancel, ho, if_true, hv, Char.ofNat_toNat]

/-- A byte in the bounds takes a character of which more is owed one byte further. -/
theorem advance_inner {p : Pending} {n : Nat} (hn : n < 64) (hl : p.low.toNat ≤ n + 0x80)
    (hh : n + 0x80 ≤ p.high.toNat) (ho : ¬ p.owed ≤ 1) :
    advance (some p) (UInt8.ofNat (n + 0x80)) =
      .more ⟨p.value * 64 + n, p.seen + 1, p.owed - 1, 0x80, 0xBF⟩ := by
  have hb : (UInt8.ofNat (n + 0x80)).toNat = n + 0x80 :=
    UInt8.toNat_ofNat_of_lt' (show _ < 256 by omega)
  show next p _ = _
  unfold next
  rw [if_pos ((within_iff p _).mpr (by rw [hb]; exact ⟨hl, hh⟩))]
  simp only [hb, Nat.add_sub_cancel, ho, if_false]

theorem decodeFrom_char {st : Option Pending} {b : UInt8} {c : Char} (h : advance st b = .char c)
    (i : Nat) (r : Bytes) : ∃ j, decodeFrom st i (b :: r) = (decodeFrom none j r).map (c :: ·) :=
  ⟨_, by rw [decodeFrom, h]⟩

theorem decodeFrom_more {st : Option Pending} {b : UInt8} {p : Pending} (h : advance st b = .more p)
    (i : Nat) (r : Bytes) : decodeFrom st i (b :: r) = decodeFrom (some p) i r := by
  rw [decodeFrom, h]

theorem advance_one {c : Char} (h : c.toNat < 0x80) :
    advance none (UInt8.ofNat c.toNat) = .char c := by
  have hb : (UInt8.ofNat c.toNat).toNat = c.toNat :=
    UInt8.toNat_ofNat_of_lt' (show _ < 256 by omega)
  simp only [advance, first, hb]
  rw [if_pos h, Char.ofNat_toNat]

theorem advance_two {n : Nat} (hl : 2 ≤ n) (hh : n < 32) :
    advance none (UInt8.ofNat (n + 0xC0)) = .more ⟨n, 1, 1, 0x80, 0xBF⟩ := by
  have hb : (UInt8.ofNat (n + 0xC0)).toNat = n + 0xC0 :=
    UInt8.toNat_ofNat_of_lt' (show _ < 256 by omega)
  simp only [advance, first, hb]
  rw [if_neg (by omega), if_neg (by omega), if_pos (by omega), Nat.add_sub_cancel]

/-- The bounds on the second byte of three hold for every value that is no surrogate and needs
    three bytes. -/
theorem advance_three {n m : Nat} (hn : n < 16) (hm : m < 64) (hl : 0x20 ≤ n * 64 + m)
    (hs : n * 64 + m < 0x360 ∨ 0x380 ≤ n * 64 + m) :
    ∃ low high : UInt8, advance none (UInt8.ofNat (n + 0xE0)) = .more ⟨n, 1, 2, low, high⟩ ∧
      low.toNat ≤ m + 0x80 ∧ m + 0x80 ≤ high.toNat := by
  have hb : (UInt8.ofNat (n + 0xE0)).toNat = n + 0xE0 :=
    UInt8.toNat_ofNat_of_lt' (show _ < 256 by omega)
  simp only [advance, first, hb]
  rw [if_neg (by omega), if_neg (by omega), if_neg (by omega)]
  split
  · obtain rfl : n = 0 := by omega
    exact ⟨0xA0, 0xBF, rfl, by simp; omega, by simp; omega⟩
  split
  · obtain rfl : n = 0xD := by omega
    exact ⟨0x80, 0x9F, rfl, by simp, by simp; omega⟩
  · rw [if_pos (by omega), Nat.add_sub_cancel]
    exact ⟨0x80, 0xBF, rfl, by simp, by simp; omega⟩

/-- The bounds on the second byte of four hold for every value past U+FFFF and up to U+10FFFF. -/
theorem advance_four {n m : Nat} (hm : m < 64) (hl : 0x10 ≤ n * 64 + m) (hh : n * 64 + m < 0x110) :
    ∃ low high : UInt8, advance none (UInt8.ofNat (n + 0xF0)) = .more ⟨n, 1, 3, low, high⟩ ∧
      low.toNat ≤ m + 0x80 ∧ m + 0x80 ≤ high.toNat := by
  have hb : (UInt8.ofNat (n + 0xF0)).toNat = n + 0xF0 :=
    UInt8.toNat_ofNat_of_lt' (show _ < 256 by omega)
  simp only [advance, first, hb]
  rw [if_neg (by omega), if_neg (by omega), if_neg (by omega), if_neg (by omega),
    if_neg (by omega), if_neg (by omega)]
  split
  · obtain rfl : n = 0 := by omega
    exact ⟨0x90, 0xBF, rfl, by simp; omega, by simp; omega⟩
  split
  · rw [Nat.add_sub_cancel]
    exact ⟨0x80, 0xBF, rfl, by simp, by simp; omega⟩
  · obtain rfl : n = 4 := by omega
    exact ⟨0x80, 0x8F, rfl, by simp, by simp; omega⟩

/-- The machine reads the bytes of a character as that character. -/
theorem decodeFrom_encodeChar (c : Char) (i : Nat) (r : Bytes) :
    ∃ j, decodeFrom none i (String.utf8EncodeChar c ++ r) = (decodeFrom none j r).map (c :: ·) := by
  have hc := toNat_range c
  rw [encodeChar_eq]
  split
  · exact decodeFrom_char (advance_one (by omega)) i r
  split
  · rw [Nat.mod_eq_of_lt (by omega : c.toNat / 64 < 32)]
    rw [List.cons_append, decodeFrom_more (advance_two (by omega) (by omega))]
    exact decodeFrom_char (advance_last (by omega) (by simp) (by simp; omega) (by simp)
      (by simp; omega)) i r
  split
  · rw [Nat.mod_eq_of_lt (by omega : c.toNat / 4096 < 16)]
    obtain ⟨low, high, hf, hl, hh⟩ :=
      advance_three (n := c.toNat / 4096) (m := c.toNat / 64 % 64) (by omega) (by omega) (by omega)
        (by omega)
    rw [List.cons_append, decodeFrom_more hf, List.cons_append,
      decodeFrom_more (advance_inner (by omega) hl hh (by simp))]
    exact decodeFrom_char (advance_last (by omega) (by simp) (by simp; omega) (by simp)
      (by simp; omega)) i r
  · rw [Nat.mod_eq_of_lt (by omega : c.toNat / 262144 < 8)]
    obtain ⟨low, high, hf, hl, hh⟩ :=
      advance_four (n := c.toNat / 262144) (m := c.toNat / 4096 % 64) (by omega) (by omega)
        (by omega)
    rw [List.cons_append, decodeFrom_more hf, List.cons_append,
      decodeFrom_more (advance_inner (by omega) hl hh (by simp)), List.cons_append,
      decodeFrom_more (advance_inner (by omega) (by simp) (by simp; omega) (by simp))]
    exact decodeFrom_char (advance_last (by omega) (by simp) (by simp; omega) (by simp)
      (by simp; omega)) i r

theorem decodeFrom_encode : ∀ (cs : List Char) (i : Nat), decodeFrom none i (encode cs) = .ok cs
  | [], _ => rfl
  | c :: cs, i => by
    obtain ⟨j, hj⟩ := decodeFrom_encodeChar c i (encode cs)
    rw [encode_cons, hj, decodeFrom_encode cs j]
    rfl

/-- **What is written reads back.** -/
theorem decode_encode (cs : List Char) : decode (encode cs) = .ok cs := decodeFrom_encode cs 0

theorem toString?_ofString (s : String) : toString? (ofString s) = some s := by
  unfold toString? ofString
  rw [decode_encode]
  exact congrArg some String.ofList_toList

end DeviceKeys.Utf8
