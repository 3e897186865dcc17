import DeviceKeys.Key
import DeviceKeys.Proofs.Text.Utf8

/-! # The text of a key reads back

* `hexValue?` reads the digit that `hexDigit` writes (`hexValue?_hexDigit`), so `DeviceKey.ofHex`
  undoes `DeviceKey.toHex` (`ofHex_toHex`).
* A text reads as a key just when it is that text, with letters of either case
  (`ofHex_eq_ok_iff`). A character beyond ASCII is never a digit, so the bytes of the text and its
  characters are the same digits (`toLower_eq_hexDigit_iff`).
-/

namespace DeviceKeys

/-! ## 1. What is written -/

theorem toNat_hexDigit_lt : ∀ n : Nat, n < 16 → (hexDigit n).toNat < 0x80 := by decide

theorem hexValue?_hexDigit : ∀ n : Nat, n < 16 →
    hexValue? (UInt8.ofNat (hexDigit n).toNat) = some n := by decide

/-- A digit is written as one byte. -/
theorem encode_hexDigit {n : Nat} (h : n < 16) :
    String.utf8EncodeChar (hexDigit n) = [UInt8.ofNat (hexDigit n).toNat] :=
  Utf8.encodeChar_of_lt (toNat_hexDigit_lt n h)

/-- The bytes of the two digits of a byte. -/
theorem encode_hexPair (b : UInt8) : Utf8.encode (hexPair b) =
    [UInt8.ofNat (hexDigit (b.toNat / 16)).toNat, UInt8.ofNat (hexDigit (b.toNat % 16)).toNat] := by
  have hb := b.toNat_lt
  simp only [hexPair, Utf8.encode_cons, Utf8.encode_nil, List.append_nil]
  rw [encode_hexDigit (by omega), encode_hexDigit (by omega)]
  rfl

theorem encode_flatMap_hexPair : ∀ bs : Bytes,
    Utf8.encode (bs.flatMap hexPair) = bs.flatMap fun b => Utf8.encode (hexPair b)
  | [] => rfl
  | b :: bs => by
    rw [List.flatMap_cons, List.flatMap_cons, Utf8.encode_append, encode_flatMap_hexPair bs]

theorem readPairs_hexPairs : ∀ (bs : Bytes) (i : Nat),
    readPairs i (bs.flatMap fun b => Utf8.encode (hexPair b)) = .ok bs
  | [], _ => rfl
  | b :: bs, i => by
    have hb := b.toNat_lt
    have hv : b.toNat / 16 * 16 + b.toNat % 16 = b.toNat := by omega
    rw [List.flatMap_cons, encode_hexPair]
    simp only [List.cons_append, List.nil_append, readPairs]
    rw [hexValue?_hexDigit _ (by omega), hexValue?_hexDigit _ (by omega)]
    simp only [readPairs_hexPairs bs, Except.map, hv, UInt8.ofNat_toNat]

theorem length_hexPairs (bs : Bytes) :
    (bs.flatMap fun b => Utf8.encode (hexPair b)).length = 2 * bs.length := by
  induction bs with
  | nil => rfl
  | cons b bs ih =>
    rw [List.flatMap_cons, List.length_append, ih, encode_hexPair]
    simp only [List.length_cons, List.length_nil]
    omega

namespace DeviceKey

/-- **The text of a key reads back as the key.** -/
theorem ofHex_toHex (k : DeviceKey) : ofHex k.toHex = .ok k := by
  have hk := k.length_eq
  have hlen := length_hexPairs k.bytes
  unfold ofHex ofHexBytes Utf8.ofString toHex hexChars
  rw [String.toList_ofList, encode_flatMap_hexPair]
  rw [if_neg (by omega), dif_neg (by omega)]
  split
  · rename_i h
    rw [readPairs_hexPairs] at h
    cases h
  · rename_i out h
    rw [readPairs_hexPairs] at h
    cases h
    rfl

end DeviceKey

/-! ## 2. What reads as a key -/

theorem hexValue?_eq_some {b : UInt8} {n : Nat} (h : hexValue? b = some n) :
    n < 16 ∧ b.toNat < 0x80 := by
  unfold hexValue? at h
  simp only at h
  split at h
  · cases h
    omega
  split at h
  · cases h
    omega
  split at h
  · cases h
    omega
  · cases h

/-- The digits of either case, among the characters of one byte. -/
theorem toLower_ascii : ∀ m : Nat, m < 0x80 → ∀ n : Nat, n < 16 →
    ((Char.ofNat m).toLower = hexDigit n ↔ hexValue? (UInt8.ofNat m) = some n) := by
  decide +kernel

/-- A character is a digit of either case just when its byte is one. -/
theorem toLower_eq_hexDigit_iff {c : Char} {n : Nat} (hn : n < 16) :
    c.toLower = hexDigit n ↔ c.toNat < 0x80 ∧ hexValue? (UInt8.ofNat c.toNat) = some n := by
  by_cases hc : c.toNat < 0x80
  · have := toLower_ascii c.toNat hc n hn
    rw [Char.ofNat_toNat] at this
    simp [this, hc]
  · have hlow : c.toLower = c := by
      unfold Char.toLower
      rw [dif_neg]
      rintro ⟨-, h⟩
      have : c.toNat ≤ 90 := UInt32.le_iff_toNat_le.mp h
      omega
    have hd := toNat_hexDigit_lt n hn
    simp only [hc, false_and, iff_false, hlow]
    rintro rfl
    omega

/-- The bytes of a text that starts with a byte below 0x80. -/
theorem encode_eq_cons {cs : List Char} {b : UInt8} {r : Bytes} (hb : b.toNat < 0x80)
    (h : Utf8.encode cs = b :: r) :
    ∃ c ds, cs = c :: ds ∧ c.toNat < 0x80 ∧ b = UInt8.ofNat c.toNat ∧ r = Utf8.encode ds := by
  cases cs with
  | nil => cases h
  | cons c ds =>
    rw [Utf8.encode_cons] at h
    by_cases hc : c.toNat < 0x80
    · rw [Utf8.encodeChar_of_lt hc] at h
      obtain ⟨rfl, rfl⟩ := List.cons.inj h
      exact ⟨c, ds, rfl, hc, rfl, rfl⟩
    · cases he : String.utf8EncodeChar c with
      | nil => exact absurd he (by simp)
      | cons x xs =>
        rw [he] at h
        obtain ⟨rfl, -⟩ := List.cons.inj h
        have := Utf8.le_of_mem_encodeChar (c := c) (by omega) (he ▸ List.mem_cons_self)
        omega

/-- Pairs of digits of either case are read as bytes. -/
theorem readPairs_of_map_toLower : ∀ {bs : Bytes} {cs : List Char} (i : Nat),
    cs.map Char.toLower = bs.flatMap hexPair →
      readPairs i (Utf8.encode cs) = .ok bs ∧ (Utf8.encode cs).length = 2 * bs.length
  | [], cs, i, h => by
    obtain rfl : cs = [] := List.map_eq_nil_iff.mp h
    exact ⟨rfl, rfl⟩
  | b :: bs, cs, i, h => by
    have hb := b.toNat_lt
    rw [List.flatMap_cons] at h
    obtain ⟨c, cs, rfl, hc, h⟩ := List.map_eq_cons_iff.mp h
    obtain ⟨d, cs, rfl, hd, h⟩ := List.map_eq_cons_iff.mp h
    obtain ⟨hc', hcv⟩ := (toLower_eq_hexDigit_iff (by omega)).mp hc
    obtain ⟨hd', hdv⟩ := (toLower_eq_hexDigit_iff (by omega)).mp hd
    obtain ⟨hr, hlen⟩ := readPairs_of_map_toLower (i + 2) h
    have hv : b.toNat / 16 * 16 + b.toNat % 16 = b.toNat := by omega
    rw [Utf8.encode_cons, Utf8.encode_cons, Utf8.encodeChar_of_lt hc', Utf8.encodeChar_of_lt hd']
    simp only [List.cons_append, List.nil_append, readPairs, hcv, hdv, hr, Except.map, hv,
      UInt8.ofNat_toNat, List.length_cons, hlen, true_and]
    omega

/-- Bytes are read from pairs of digits of either case. -/
theorem map_toLower_of_readPairs : ∀ {bs : Bytes} {cs : List Char} {i : Nat},
    readPairs i (Utf8.encode cs) = .ok bs → (Utf8.encode cs).length = 2 * bs.length →
      cs.map Char.toLower = bs.flatMap hexPair
  | [], cs, i, _, hlen => by
    cases cs with
    | nil => rfl
    | cons c cs =>
      have := List.eq_nil_of_length_eq_zero hlen
      simp at this
  | b :: bs, cs, i, h, hlen => by
    match hs : Utf8.encode cs with
    | [] | [_] =>
      rw [hs] at hlen
      simp only [List.length_cons, List.length_nil] at hlen
      omega
    | x :: y :: r =>
      rw [hs] at h hlen
      rw [readPairs] at h
      cases hx : hexValue? x with
      | none => rw [hx] at h; cases h
      | some m =>
        cases hy : hexValue? y with
        | none => rw [hx, hy] at h; cases h
        | some n =>
          rw [hx, hy] at h
          simp only at h
          cases hr : readPairs (i + 2) r with
          | error e => rw [hr] at h; cases h
          | ok out =>
            rw [hr] at h
            cases h
            obtain ⟨hm, hx'⟩ := hexValue?_eq_some hx
            obtain ⟨hn, hy'⟩ := hexValue?_eq_some hy
            obtain ⟨c, ds, rfl, hc, rfl, hds⟩ := encode_eq_cons hx' hs
            obtain ⟨d, ds, rfl, hd, rfl, rfl⟩ := encode_eq_cons hy' hds.symm
            have hv : (UInt8.ofNat (m * 16 + n)).toNat = m * 16 + n :=
              UInt8.toNat_ofNat_of_lt' (show _ < 256 by omega)
            have ih := map_toLower_of_readPairs hr (by simp only [List.length_cons] at hlen; omega)
            rw [List.map_cons, List.map_cons, List.flatMap_cons, ih,
              (toLower_eq_hexDigit_iff hm).mpr ⟨hc, hx⟩, (toLower_eq_hexDigit_iff hn).mpr ⟨hd, hy⟩,
              hexPair, hv, show (m * 16 + n) / 16 = m by omega,
              show (m * 16 + n) % 16 = n by omega]
            rfl

namespace DeviceKey

/-- **A text reads as a key just when it is the text of the key, with letters of either case.** -/
theorem ofHex_eq_ok_iff {s : String} {k : DeviceKey} :
    ofHex s = .ok k ↔ s.toList.map Char.toLower = k.hexChars := by
  have hk : k.bytes.length = keyLength := k.length_eq
  unfold ofHex ofHexBytes Utf8.ofString hexChars
  constructor
  · intro h
    split at h
    · cases h
    split at h
    · cases h
    split at h
    · cases h
    · rename_i heven hlen out hr
      cases h
      exact map_toLower_of_readPairs hr (by omega)
  · intro h
    obtain ⟨hr, hlen⟩ := readPairs_of_map_toLower 0 h
    rw [if_neg (by omega), dif_neg (by omega)]
    split
    · rename_i hr'
      rw [hr] at hr'
      cases hr'
    · rename_i hr'
      rw [hr] at hr'
      cases hr'
      rfl

end DeviceKey

end DeviceKeys
