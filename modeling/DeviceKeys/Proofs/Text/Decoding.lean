import DeviceKeys.Proofs.Text.Utf8

/-! # What reads as UTF-8 was written as UTF-8

* `Part`: the bytes that the machine has behind it within a character, for each state that it can
  be in. A first byte leads to such a state (`part_of_first`), a further one to the next
  (`Part.append`), and the last one gives the character whose bytes all of them are
  (`Part.encodeChar`).
* So `decode` succeeds on what `encode` writes and on nothing else (`decode_eq_ok_iff`).
* `IsText`: the bytes are those of a text. Wherever the bytes of a character stand in a text, what
  is in front of them and what is behind them are texts (`IsText.of_char`).
-/

namespace DeviceKeys.Utf8

/-! ## 1. Characters read in part -/

/-- The bytes of a character that has been read in part. The values are those for which the
    character can be completed. -/
inductive Part : Bytes → Pending → Prop
  | two {v : Nat} (hl : 2 ≤ v) (hh : v < 32) :
      Part [UInt8.ofNat (v + 0xC0)] ⟨v, 1, 1, 0x80, 0xBF⟩
  | three {v : Nat} {low high : UInt8} (hv : v < 16) (hlow : 0x80 ≤ low.toNat)
      (hhigh : high.toNat ≤ 0xBF) (hbase : v = 0 → 0xA0 ≤ low.toNat)
      (hsurr : v = 0xD → high.toNat ≤ 0x9F) :
      Part [UInt8.ofNat (v + 0xE0)] ⟨v, 1, 2, low, high⟩
  | threeMore {v : Nat} (hl : 0x20 ≤ v) (hv : v < 0x400) (hsurr : v < 0x360 ∨ 0x380 ≤ v) :
      Part [UInt8.ofNat (v / 64 + 0xE0), UInt8.ofNat (v % 64 + 0x80)] ⟨v, 2, 1, 0x80, 0xBF⟩
  | four {v : Nat} {low high : UInt8} (hv : v ≤ 4) (hlow : 0x80 ≤ low.toNat)
      (hhigh : high.toNat ≤ 0xBF) (hbase : v = 0 → 0x90 ≤ low.toNat)
      (htop : v = 4 → high.toNat ≤ 0x8F) :
      Part [UInt8.ofNat (v + 0xF0)] ⟨v, 1, 3, low, high⟩
  | fourMore {v : Nat} (hl : 0x10 ≤ v) (hv : v < 0x110) :
      Part [UInt8.ofNat (v / 64 + 0xF0), UInt8.ofNat (v % 64 + 0x80)] ⟨v, 2, 2, 0x80, 0xBF⟩
  | fourLast {v : Nat} (hl : 0x400 ≤ v) (hv : v < 0x4400) :
      Part [UInt8.ofNat (v / 4096 + 0xF0), UInt8.ofNat (v / 64 % 64 + 0x80),
        UInt8.ofNat (v % 64 + 0x80)] ⟨v, 3, 1, 0x80, 0xBF⟩

theorem toNat_ofNat {n : Nat} (h : n < 0xD800 ∨ 0xDFFF < n ∧ n < 0x110000) :
    (Char.ofNat n).toNat = n := by
  have hv : n.isValidChar := h
  unfold Char.ofNat
  rw [dif_pos hv]
  rfl

theorem eq_ofNat_add {b : UInt8} {k : Nat} (h : k ≤ b.toNat) :
    b = UInt8.ofNat (b.toNat - k + k) := by
  rw [Nat.sub_add_cancel h, UInt8.ofNat_toNat]

/-! ## 2. The machine on them -/

/-- The first byte of a character of one byte. -/
theorem encodeChar_of_first {b : UInt8} {c : Char} (h : first b = .char c) :
    String.utf8EncodeChar c = [b] := by
  by_cases hb : b.toNat < 0x80
  · simp only [first, if_pos hb] at h
    obtain rfl := Step.char.inj h
    have hc := toNat_ofNat (n := b.toNat) (by omega)
    rw [encodeChar_of_lt (by omega), hc, UInt8.ofNat_toNat]
  · grind [first]

/-- The first byte of a longer character. -/
theorem part_of_first {b : UInt8} {p : Pending} (h : first b = .more p) : Part [b] p := by
  have hlt := b.toNat_lt
  have hb {k : Nat} (hk : k ≤ b.toNat) : b = UInt8.ofNat (b.toNat - k + k) := eq_ofNat_add hk
  unfold first at h
  simp only at h
  split at h
  · cases h
  split at h
  · cases h
  split at h
  · obtain rfl := Step.more.inj h
    have := Part.two (v := b.toNat - 0xC0) (by omega) (by omega)
    rwa [← hb (by omega)] at this
  split at h
  · obtain rfl := Step.more.inj h
    have := @Part.three (b.toNat - 0xE0) 0xA0 0xBF (by omega) (by decide)
      (by decide) (by simp) (by omega)
    rwa [← hb (by omega), show b.toNat - 0xE0 = 0 by omega] at this
  split at h
  · obtain rfl := Step.more.inj h
    have := @Part.three (b.toNat - 0xE0) 0x80 0x9F (by omega) (by decide)
      (by decide) (by omega) (by simp)
    rwa [← hb (by omega), show b.toNat - 0xE0 = 0xD by omega] at this
  split at h
  · obtain rfl := Step.more.inj h
    have := @Part.three (b.toNat - 0xE0) 0x80 0xBF (by omega) (by decide)
      (by decide) (by omega) (by omega)
    rwa [← hb (by omega)] at this
  split at h
  · obtain rfl := Step.more.inj h
    have := @Part.four (b.toNat - 0xF0) 0x90 0xBF (by omega) (by decide)
      (by decide) (by simp) (by omega)
    rwa [← hb (by omega), show b.toNat - 0xF0 = 0 by omega] at this
  split at h
  · obtain rfl := Step.more.inj h
    have := @Part.four (b.toNat - 0xF0) 0x80 0xBF (by omega) (by decide)
      (by decide) (by omega) (by omega)
    rwa [← hb (by omega)] at this
  split at h
  · obtain rfl := Step.more.inj h
    have := @Part.four (b.toNat - 0xF0) 0x80 0x8F (by omega) (by decide)
      (by decide) (by omega) (by simp)
    rwa [← hb (by omega), show b.toNat - 0xF0 = 4 by omega] at this
  · cases h

theorem next_eq_char {p : Pending} {b : UInt8} {c : Char} (h : next p b = .char c) :
    p.low.toNat ≤ b.toNat ∧ b.toNat ≤ p.high.toNat ∧ p.owed ≤ 1 ∧
      c = Char.ofNat (p.value * 64 + (b.toNat - 0x80)) := by
  unfold next at h
  split at h
  · rename_i hb
    obtain ⟨hl, hh⟩ := (within_iff p b).mp hb
    simp only at h
    split at h
    · rename_i ho
      exact ⟨hl, hh, ho, (Step.char.inj h).symm⟩
    · cases h
  · cases h

theorem next_eq_more {p p' : Pending} {b : UInt8} (h : next p b = .more p') :
    p.low.toNat ≤ b.toNat ∧ b.toNat ≤ p.high.toNat ∧ 1 < p.owed ∧
      p' = ⟨p.value * 64 + (b.toNat - 0x80), p.seen + 1, p.owed - 1, 0x80, 0xBF⟩ := by
  unfold next at h
  split at h
  · rename_i hb
    obtain ⟨hl, hh⟩ := (within_iff p b).mp hb
    simp only at h
    split at h
    · cases h
    · rename_i ho
      exact ⟨hl, hh, Nat.not_le.mp ho, (Step.more.inj h).symm⟩
  · cases h

/-- A further byte of a character that stays unfinished. -/
theorem Part.append {pre : Bytes} {p p' : Pending} {b : UInt8} (hp : Part pre p)
    (h : next p b = .more p') : Part (pre ++ [b]) p' := by
  obtain ⟨hl, hh, ho, rfl⟩ := next_eq_more h
  have hlt := b.toNat_lt
  cases hp with
  | two | threeMore | fourLast => simp at ho
  | @three v low high hv hlow hhigh hbase hsurr =>
    simp only at hl hh
    have := Part.threeMore (v := v * 64 + (b.toNat - 0x80)) (by omega) (by omega) (by omega)
    rwa [show (v * 64 + (b.toNat - 0x80)) / 64 = v by omega,
      show (v * 64 + (b.toNat - 0x80)) % 64 = b.toNat - 0x80 by omega,
      ← eq_ofNat_add (by omega)] at this
  | @four v low high hv hlow hhigh hbase htop =>
    simp only at hl hh
    have := Part.fourMore (v := v * 64 + (b.toNat - 0x80)) (by omega) (by omega)
    rwa [show (v * 64 + (b.toNat - 0x80)) / 64 = v by omega,
      show (v * 64 + (b.toNat - 0x80)) % 64 = b.toNat - 0x80 by omega,
      ← eq_ofNat_add (by omega)] at this
  | @fourMore v hlv hv =>
    replace hl : 0x80 ≤ b.toNat := hl
    replace hh : b.toNat ≤ 0xBF := hh
    have := Part.fourLast (v := v * 64 + (b.toNat - 0x80)) (by omega) (by omega)
    rwa [show (v * 64 + (b.toNat - 0x80)) / 4096 = v / 64 by omega,
      show (v * 64 + (b.toNat - 0x80)) / 64 % 64 = v % 64 by omega,
      show (v * 64 + (b.toNat - 0x80)) % 64 = b.toNat - 0x80 by omega,
      ← eq_ofNat_add (by omega)] at this

/-- The last byte of a character. -/
theorem Part.encodeChar {pre : Bytes} {p : Pending} {b : UInt8} {c : Char} (hp : Part pre p)
    (h : next p b = .char c) : String.utf8EncodeChar c = pre ++ [b] := by
  obtain ⟨hl, hh, ho, hc⟩ := next_eq_char h
  have hlt := b.toNat_lt
  cases hp with
  | three | four | fourMore => simp at ho
  | @two v hlv hhv =>
    replace hl : 0x80 ≤ b.toNat := hl
    replace hh : b.toNat ≤ 0xBF := hh
    have hn : c.toNat = v * 64 + (b.toNat - 0x80) :=
      (congrArg Char.toNat hc).trans (toNat_ofNat (n := v * 64 + (b.toNat - 0x80)) (by omega))
    rw [encodeChar_eq, if_neg (by omega), if_pos (by omega), hn,
      show (v * 64 + (b.toNat - 0x80)) / 64 % 32 = v by omega,
      show (v * 64 + (b.toNat - 0x80)) % 64 = b.toNat - 0x80 by omega, ← eq_ofNat_add (by omega)]
    rfl
  | @threeMore v hlv hv hsurr =>
    replace hl : 0x80 ≤ b.toNat := hl
    replace hh : b.toNat ≤ 0xBF := hh
    have hn : c.toNat = v * 64 + (b.toNat - 0x80) :=
      (congrArg Char.toNat hc).trans (toNat_ofNat (n := v * 64 + (b.toNat - 0x80)) (by omega))
    rw [encodeChar_eq, if_neg (by omega), if_neg (by omega), if_pos (by omega), hn,
      show (v * 64 + (b.toNat - 0x80)) / 4096 % 16 = v / 64 by omega,
      show (v * 64 + (b.toNat - 0x80)) / 64 % 64 = v % 64 by omega,
      show (v * 64 + (b.toNat - 0x80)) % 64 = b.toNat - 0x80 by omega, ← eq_ofNat_add (by omega)]
    rfl
  | @fourLast v hlv hv =>
    replace hl : 0x80 ≤ b.toNat := hl
    replace hh : b.toNat ≤ 0xBF := hh
    have hn : c.toNat = v * 64 + (b.toNat - 0x80) :=
      (congrArg Char.toNat hc).trans (toNat_ofNat (n := v * 64 + (b.toNat - 0x80)) (by omega))
    rw [encodeChar_eq, if_neg (by omega), if_neg (by omega), if_neg (by omega), hn,
      show (v * 64 + (b.toNat - 0x80)) / 262144 % 8 = v / 4096 by omega,
      show (v * 64 + (b.toNat - 0x80)) / 4096 % 64 = v / 64 % 64 by omega,
      show (v * 64 + (b.toNat - 0x80)) / 64 % 64 = v % 64 by omega,
      show (v * 64 + (b.toNat - 0x80)) % 64 = b.toNat - 0x80 by omega, ← eq_ofNat_add (by omega)]
    rfl

/-! ## 3. Texts -/

/-- The bytes that a state of the machine has behind it. -/
def Behind (pre : Bytes) : Option Pending → Prop
  | none => pre = []
  | some p => Part pre p

theorem encode_of_decodeFrom : ∀ {s pre : Bytes} {st : Option Pending} {i : Nat} {cs : List Char},
    Behind pre st → decodeFrom st i s = .ok cs → pre ++ s = encode cs
  | [], pre, none, i, cs, hb, h => by
    cases h
    obtain rfl : pre = [] := hb
    rfl
  | [], _, some p, _, _, _, h => by cases h
  | b :: r, pre, st, i, cs, hb, h => by
    cases ha : advance st b with
    | refused =>
      rw [decodeFrom, ha] at h
      cases h
    | more p =>
      rw [decodeFrom_more ha] at h
      have hp : Part (pre ++ [b]) p := by
        cases st with
        | none =>
          obtain rfl : pre = [] := hb
          exact part_of_first ha
        | some q => exact Part.append hb ha
      have hs := @encode_of_decodeFrom r (pre ++ [b]) (some p) i cs hp h
      rwa [List.append_assoc] at hs
    | char c =>
      have hc : String.utf8EncodeChar c = pre ++ [b] := by
        cases st with
        | none =>
          obtain rfl : pre = [] := hb
          exact encodeChar_of_first ha
        | some q => exact Part.encodeChar hb ha
      obtain ⟨j, hj⟩ := decodeFrom_char ha i r
      rw [hj] at h
      cases hr : decodeFrom none j r with
      | error e =>
        rw [hr] at h
        cases h
      | ok ds =>
        rw [hr] at h
        cases h
        have hds : r = encode ds := @encode_of_decodeFrom r [] none j ds rfl hr
        rw [encode_cons, hc, ← hds, List.append_assoc]
        rfl

/-- **Bytes read as a text just when they are what is written for it.** -/
theorem decode_eq_ok_iff {s : Bytes} {cs : List Char} : decode s = .ok cs ↔ s = encode cs :=
  ⟨fun h => @encode_of_decodeFrom s [] none 0 cs rfl h, fun h => h ▸ decode_encode cs⟩

theorem toString?_eq_some_iff {s : Bytes} {t : String} :
    toString? s = some t ↔ s = ofString t := by
  constructor
  · intro h
    obtain ⟨cs, hcs, rfl⟩ := Option.map_eq_some_iff.mp h
    cases hd : decode s with
    | error e =>
      rw [hd] at hcs
      cases hcs
    | ok ds =>
      rw [hd] at hcs
      cases hcs
      simpa [ofString] using decode_eq_ok_iff.mp hd
  · rintro rfl
    exact toString?_ofString t

/-! ## 4. Texts put together and taken apart -/

/-- The bytes are those of a text. -/
def IsText (s : Bytes) : Prop := ∃ cs, s = encode cs

theorem IsText.nil : IsText [] := ⟨[], rfl⟩

theorem IsText.append {s t : Bytes} : IsText s → IsText t → IsText (s ++ t)
  | ⟨cs, hs⟩, ⟨ds, ht⟩ => ⟨cs ++ ds, by rw [hs, ht, encode_append]⟩

/-- Bytes below 0x80 are a text. -/
theorem isText_of_lt : ∀ {s : Bytes}, (∀ b ∈ s, b.toNat < 0x80) → IsText s
  | [], _ => .nil
  | b :: s, h => by
    have hb := h b List.mem_cons_self
    have hc : (Char.ofNat b.toNat).toNat = b.toNat := toNat_ofNat (.inl (by omega))
    have hone : IsText [b] := ⟨[Char.ofNat b.toNat], by
      rw [encode_cons, encodeChar_of_lt (by omega), hc, UInt8.ofNat_toNat]
      rfl⟩
    exact hone.append (isText_of_lt fun x hx => h x (List.mem_cons_of_mem b hx))

/-- The first byte of a character is none that continues one, and the others are. -/
theorem exists_first_byte (c : Char) : ∃ b rest, String.utf8EncodeChar c = b :: rest ∧
    (b.toNat < 0x80 ∨ 0xC0 ≤ b.toNat) ∧ ∀ x ∈ rest, 0x80 ≤ x.toNat ∧ x.toNat < 0xC0 := by
  have hnat {n : Nat} (hn : n < 256) : (UInt8.ofNat n).toNat = n := UInt8.toNat_ofNat_of_lt' hn
  have hrest (n : Nat) : 0x80 ≤ (UInt8.ofNat (n % 64 + 0x80)).toNat ∧
      (UInt8.ofNat (n % 64 + 0x80)).toNat < 0xC0 := by
    rw [hnat (by omega)]
    omega
  have hnil : ∀ x ∈ ([] : Bytes), 0x80 ≤ x.toNat ∧ x.toNat < 0xC0 := List.forall_mem_nil _
  rw [encodeChar_eq]
  split
  · exact ⟨_, [], rfl, .inl (by rw [hnat (by omega)]; omega), hnil⟩
  split
  · exact ⟨_, _, rfl, .inr (by rw [hnat (by omega)]; omega),
      List.forall_mem_cons.mpr ⟨hrest _, hnil⟩⟩
  split
  · exact ⟨_, _, rfl, .inr (by rw [hnat (by omega)]; omega), List.forall_mem_cons.mpr ⟨hrest _,
      List.forall_mem_cons.mpr ⟨hrest _, hnil⟩⟩⟩
  · exact ⟨_, _, rfl, .inr (by rw [hnat (by omega)]; omega), List.forall_mem_cons.mpr ⟨hrest _,
      List.forall_mem_cons.mpr ⟨hrest _, List.forall_mem_cons.mpr ⟨hrest _, hnil⟩⟩⟩⟩

/-- What is behind the first character of a text is a text. -/
theorem IsText.of_char_append {c : Char} {s : Bytes} (h : IsText (String.utf8EncodeChar c ++ s)) :
    IsText s := by
  obtain ⟨cs, hcs⟩ := h
  have hread : decodeFrom none 0 (String.utf8EncodeChar c ++ s) = .ok cs := decode_eq_ok_iff.mpr hcs
  obtain ⟨j, hj⟩ := decodeFrom_encodeChar c 0 s
  rw [hj] at hread
  cases hs : decodeFrom none j s with
  | error e =>
    rw [hs] at hread
    cases hread
  | ok ds => exact ⟨ds, @encode_of_decodeFrom s [] none j ds rfl hs⟩

/-- **A character in a text parts it in two texts**, since no character starts within another. -/
theorem IsText.of_char {c : Char} {s : Bytes} : ∀ {pre : Bytes},
    IsText (pre ++ (String.utf8EncodeChar c ++ s)) → IsText pre ∧ IsText s
  | pre, ⟨cs, hcs⟩ => by
    obtain ⟨b, rest, hc, hfirst, -⟩ := exists_first_byte c
    induction cs generalizing pre with
    | nil => simp [hc] at hcs
    | cons d cs ih =>
      rw [encode_cons, List.append_eq_append_iff] at hcs
      rcases hcs with ⟨tail, hd, hs⟩ | ⟨tail, rfl, hs⟩
      · -- the first character of the text reaches into the given one, or the two are one
        obtain ⟨b', rest', hd', -, hrest'⟩ := exists_first_byte d
        rw [hd'] at hd
        cases pre with
        | nil =>
          rw [List.nil_append] at hd
          exact ⟨.nil, .of_char_append ⟨d :: cs, by rw [hs, encode_cons, hd', hd]⟩⟩
        | cons x pre =>
          cases tail with
          | nil =>
            rw [List.append_nil] at hd
            refine ⟨⟨[d], ?_⟩, .of_char_append ⟨cs, hs⟩⟩
            rw [← hd, ← hd', encode_cons, encode_nil, List.append_nil]
          | cons y tail =>
            -- a byte that continues a character would be the first one of one
            exfalso
            rw [List.cons_append, List.cons.injEq] at hd
            have hy := hrest' y (by rw [hd.2]; simp)
            rw [hc, List.cons_append, List.cons_append, List.cons.injEq] at hs
            rw [← hs.1] at hy
            omega
      · obtain ⟨htail, hs⟩ := ih _ hs.symm
        exact ⟨.append ⟨[d], by rw [encode_cons, encode_nil, List.append_nil]⟩ htail, hs⟩

end DeviceKeys.Utf8
