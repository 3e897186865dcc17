import DeviceKeys.Json.Quoted
import DeviceKeys.Json.Unquoted
import DeviceKeys.Proofs.Key

/-! # A written JSON string reads back

* A byte that is neither a quote, nor a backslash, nor below 0x20 stands for itself in a string
  (`Plain`, `readBody_plain`).
* What `escaped` writes for a character reads as the bytes of that character
  (`readBody_escaped`): the escapes of one letter, those of four digits, and the characters that
  stand for themselves, all bytes of which are plain (`plain_of_mem_encodeChar`).
* So `readString` undoes `quoted`, whatever follows the closing quote (`readString_quoted`).
-/

namespace DeviceKeys.Json

/-- The byte stands for itself in a string. -/
def Plain (b : UInt8) : Prop := b ≠ 0x22 ∧ b ≠ 0x5C ∧ ¬ b < 0x20

/-! ## 1. Bytes that stand for themselves -/

theorem readBody_plain : ∀ {bs : Bytes}, (∀ b ∈ bs, Plain b) → ∀ r : Bytes,
    readBody .plain (bs ++ r) = (readBody .plain r).map fun p => (bs ++ p.1, p.2)
  | [], _, r => by cases h : readBody .plain r <;> simp [Except.map, h]
  | b :: bs, h, r => by
    obtain ⟨hq, hs, hc⟩ := h b List.mem_cons_self
    have ih := readBody_plain (fun x hx => h x (List.mem_cons_of_mem b hx)) r
    rw [List.cons_append, readBody, if_neg hq, if_neg hs, if_neg hc, ih]
    cases readBody .plain r <;> rfl

theorem plain_of_toNat {b : UInt8} (hl : 0x20 ≤ b.toNat) (hq : b.toNat ≠ 0x22)
    (hs : b.toNat ≠ 0x5C) : Plain b := by
  refine ⟨fun h => hq (h ▸ rfl), fun h => hs (h ▸ rfl), fun h => ?_⟩
  have : b.toNat < 0x20 := UInt8.lt_iff_toNat_lt.mp h
  omega

/-- The bytes of a character that is not escaped are plain. -/
theorem plain_of_mem_encodeChar {c : Char} (hl : 0x20 ≤ c.toNat) (hq : c ≠ '"') (hs : c ≠ '\\')
    {b : UInt8} (hb : b ∈ String.utf8EncodeChar c) : Plain b := by
  have hq' : c.toNat ≠ 0x22 := fun h => hq (Char.toNat_inj.mp h)
  have hs' : c.toNat ≠ 0x5C := fun h => hs (Char.toNat_inj.mp h)
  by_cases hc : c.toNat < 0x80
  · rw [Utf8.encodeChar_of_lt hc, List.mem_singleton] at hb
    have hn : b.toNat = c.toNat := by
      rw [hb]
      exact UInt8.toNat_ofNat_of_lt' (show _ < 256 by omega)
    exact plain_of_toNat (by omega) (by omega) (by omega)
  · have := Utf8.le_of_mem_encodeChar (by omega) hb
    exact plain_of_toNat (by omega) (by omega) (by omega)

/-! ## 2. Escapes -/

/-- A byte of an escape that completes no character leads to the next state. -/
theorem readBody_inner {st st' : StringState} {b : UInt8} (hst : st ≠ .plain)
    (h : escapeStep st b = .ok (st', none)) (r : Bytes) :
    readBody st (b :: r) = readBody st' r := by
  have hr : (readBody st' r).map (fun p => (Utf8.encode (none : Option Char).toList ++ p.1, p.2)) =
      readBody st' r := by
    cases readBody st' r <;> rfl
  cases st with
  | plain => exact absurd rfl hst
  | _ => simp only [readBody, h, hr]

/-- A byte of an escape that completes a character gives the bytes of that character. -/
theorem readBody_last {st : StringState} {b : UInt8} {c : Char} (hst : st ≠ .plain)
    (h : escapeStep st b = .ok (.plain, some c)) (r : Bytes) :
    readBody st (b :: r) =
      (readBody .plain r).map fun p => (String.utf8EncodeChar c ++ p.1, p.2) := by
  have hc : Utf8.encode (some c).toList = String.utf8EncodeChar c := List.append_nil _
  cases st with
  | plain => exact absurd rfl hst
  | _ => simp only [readBody, h, hc]

theorem readBody_backslash (r : Bytes) : readBody .plain (0x5C :: r) = readBody .escape r := by
  rw [readBody, if_neg (by decide), if_pos rfl]

/-- An escape of one letter reads as its character. -/
theorem readBody_letter {b : UInt8} {c : Char} (hu : b ≠ 0x75) (hb : simpleEscape? b = some c)
    (r : Bytes) : readBody .plain (0x5C :: b :: r) =
      (readBody .plain r).map fun p => (String.utf8EncodeChar c ++ p.1, p.2) := by
  rw [readBody_backslash]
  exact readBody_last (by simp) (by simp [escapeStep, hu, hb]) r

theorem pushDigit_hexDigit {v d : Nat} (hd : d < 16) :
    pushDigit (some v) (UInt8.ofNat (hexDigit d).toNat) = some (v * 16 + d) := by
  simp only [pushDigit, hexValue?_hexDigit d hd]

theorem escapeStep_digit {k v d : Nat} (hk : k ≠ 3) (hd : d < 16) :
    escapeStep (.digits none k (some v)) (UInt8.ofNat (hexDigit d).toNat) =
      .ok (.digits none (k + 1) (some (v * 16 + d)), none) := by
  simp only [escapeStep, if_neg hk, pushDigit_hexDigit hd]

/-- The last digit of an escape whose value is the number of a character. -/
theorem escapeStep_lastDigit {c : Char} {v d : Nat} (hd : d < 16) (hv : v * 16 + d = c.toNat)
    (hc : c.toNat < 0xD800) :
    escapeStep (.digits none 3 (some v)) (UInt8.ofNat (hexDigit d).toNat) =
      .ok (.plain, some c) := by
  have hlow : isLowSurrogate c.toNat = false := by simp [isLowSurrogate]; omega
  have hhigh : isHighSurrogate c.toNat = false := by simp [isHighSurrogate]; omega
  simp only [escapeStep, if_true, pushDigit_hexDigit hd, hv]
  simp [afterDigits, hlow, hhigh, Char.ofNat_toNat]

/-- An escape of four digits, the first two of them zero, reads as its character. -/
theorem readBody_digits {c : Char} (hc : c.toNat < 0x20) (r : Bytes) :
    readBody .plain (Utf8.encode
        ['\\', 'u', '0', '0', hexDigit (c.toNat / 16), hexDigit (c.toNat % 16)] ++ r) =
      (readBody .plain r).map fun p => (String.utf8EncodeChar c ++ p.1, p.2) := by
  have hb : Utf8.encode ['\\', 'u', '0', '0', hexDigit (c.toNat / 16), hexDigit (c.toNat % 16)] =
      [0x5C, 0x75, UInt8.ofNat (hexDigit 0).toNat, UInt8.ofNat (hexDigit 0).toNat,
        UInt8.ofNat (hexDigit (c.toNat / 16)).toNat,
        UInt8.ofNat (hexDigit (c.toNat % 16)).toNat] := by
    simp only [Utf8.encode_cons, encode_hexDigit (show c.toNat / 16 < 16 by omega),
      encode_hexDigit (show c.toNat % 16 < 16 by omega)]
    rfl
  simp only [hb, List.cons_append, List.nil_append]
  have hu : escapeStep .escape 0x75 = .ok (.digits none 0 (some 0), none) := rfl
  have h0 := escapeStep_digit (k := 0) (v := 0) (d := 0) (by decide) (by decide)
  have h1 := escapeStep_digit (k := 1) (v := 0) (d := 0) (by decide) (by decide)
  have h2 := escapeStep_digit (k := 2) (v := 0) (d := c.toNat / 16) (by decide) (by omega)
  have h3 := escapeStep_lastDigit (c := c) (v := 0 * 16 + c.toNat / 16) (d := c.toNat % 16)
    (by omega) (by omega) (by omega)
  rw [readBody_backslash, readBody_inner (by simp) hu, readBody_inner (by simp) h0,
    readBody_inner (by simp) h1, readBody_inner (by simp) h2, readBody_last (by simp) h3]

/-! ## 3. Strings -/

/-- **What is written for a character reads as its bytes.** -/
theorem readBody_escaped (c : Char) (r : Bytes) :
    readBody .plain (Utf8.encode (escaped c) ++ r) =
      (readBody .plain r).map fun p => (String.utf8EncodeChar c ++ p.1, p.2) := by
  have letter {b : UInt8} {d : Char} (hd : d = c) (hu : b ≠ 0x75)
      (hb : simpleEscape? b = some d) : readBody .plain (0x5C :: b :: r) =
      (readBody .plain r).map fun p => (String.utf8EncodeChar c ++ p.1, p.2) :=
    hd ▸ readBody_letter hu hb r
  have ofNat {n : Nat} (h : c.toNat = n) : Char.ofNat n = c := h ▸ Char.ofNat_toNat c
  unfold escaped
  split
  · rename_i h
    exact letter h.symm (by decide) (b := 0x22) (by decide)
  split
  · rename_i h
    exact letter h.symm (by decide) (b := 0x5C) (by decide)
  split
  · rename_i h
    exact letter (ofNat h) (by decide) (b := 0x62) (by decide)
  split
  · rename_i h
    exact letter h.symm (by decide) (b := 0x74) (by decide)
  split
  · rename_i h
    exact letter h.symm (by decide) (b := 0x6E) (by decide)
  split
  · rename_i h
    exact letter (ofNat h) (by decide) (b := 0x66) (by decide)
  split
  · rename_i h
    exact letter h.symm (by decide) (b := 0x72) (by decide)
  split
  · rename_i h
    exact readBody_digits h r
  · rename_i hq hs _ _ _ _ _ hl
    rw [Utf8.encode_cons, Utf8.encode_nil, List.append_nil]
    exact readBody_plain (fun b hb => plain_of_mem_encodeChar (by omega) hq hs hb) r

theorem readBody_flatMap_escaped : ∀ (cs : List Char) (r : Bytes),
    readBody .plain (Utf8.encode (cs.flatMap escaped) ++ 0x22 :: r) = .ok (Utf8.encode cs, r)
  | [], r => by
    show readBody .plain (0x22 :: r) = _
    rw [readBody, if_pos rfl]
    rfl
  | c :: cs, r => by
    rw [List.flatMap_cons, Utf8.encode_append, List.append_assoc, readBody_escaped,
      readBody_flatMap_escaped cs r]
    rfl

/-- The bytes of a written string: a quote, the escaped characters, and a quote. -/
theorem encode_quoted (s : String) : Utf8.encode (quoted s) =
    0x22 :: (Utf8.encode (s.toList.flatMap escaped) ++ [0x22]) := by
  unfold quoted
  rw [Utf8.encode_append]
  rfl

/-- **A written string reads back**, from the byte after its opening quote. -/
theorem readString_quoted (s : String) (r : Bytes) :
    readString (Utf8.encode (s.toList.flatMap escaped) ++ 0x22 :: r) = .ok (s, r) := by
  unfold readString
  rw [readBody_flatMap_escaped]
  simp only [Utf8.decode_encode, String.ofList_toList]

end DeviceKeys.Json
