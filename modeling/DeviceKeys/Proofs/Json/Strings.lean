import DeviceKeys.Proofs.Json.Grammar
import DeviceKeys.Proofs.Json.Text
import DeviceKeys.Proofs.Text.Decoding

/-! # Strings are read and passed over as the grammar says

* `readBody_eq_ok_iff`, `readString_eq_ok_iff`: a string whose value is wanted.
* `skipString_eq_ok_iff`: one that is passed over.

An escape is read by several steps of one machine. `readBody_of_escape` takes them together, and
`exists_escape` says that reading cannot go on in any other way.
-/

namespace DeviceKeys.Json

variable {s r t data : Bytes} {b : UInt8}

/-! ## 1. Outcomes -/

section

variable {ε α β : Type} {x : Except ε α}

theorem map_eq_ok_iff {f : α → β} {b : β} : x.map f = .ok b ↔ ∃ a, x = .ok a ∧ f a = b := by
  cases x <;> simp [Except.map]

theorem mapError_eq_ok_iff {ε' : Type} {f : ε → ε'} {a : α} :
    x.mapError f = .ok a ↔ x = .ok a := by
  cases x with
  | error e => constructor <;> (intro h; cases h)
  | ok b => constructor <;> (intro h; cases h; rfl)

theorem bind_eq_ok_iff {f : α → Except ε β} {b : β} :
    x >>= f = .ok b ↔ ∃ a, x = .ok a ∧ f a = .ok b := by
  cases x <;> simp [bind, Except.bind]

end

/-! ## 2. Blanks -/

theorem Blank.refl (s : Bytes) : Blank s s := ⟨[], rfl, by simp⟩

theorem Blank.trans (h : Blank s t) (h' : Blank t r) : Blank s r := by
  obtain ⟨ws, rfl, hw⟩ := h
  obtain ⟨ws', rfl, hw'⟩ := h'
  exact ⟨ws ++ ws', (List.append_assoc ..).symm, by grind⟩

theorem blank_skipSpace (s : Bytes) : Blank s (skipSpace s) :=
  ⟨s.takeWhile isSpace, List.takeWhile_append_dropWhile.symm,
    List.all_eq_true.mp List.all_takeWhile⟩

theorem Blank.length_le (h : Blank s r) : r.length ≤ s.length := by
  obtain ⟨ws, rfl, -⟩ := h
  simp

theorem Comma.length_le {first : Bool} (h : Comma first s t) : t.length ≤ s.length := by
  cases first with
  | true => exact Nat.le_of_eq (congrArg List.length h.symm)
  | false => exact Nat.le_of_succ_le (Blank.length_le h)

/-- Blanks in front make no difference. -/
theorem Blank.skipSpace_eq (h : Blank s r) : skipSpace s = skipSpace r := by
  obtain ⟨ws, rfl, hw⟩ := h
  exact List.dropWhile_append_of_pos hw

theorem skipSpace_cons (hb : isSpace b = false) (r : Bytes) : skipSpace (b :: r) = b :: r :=
  List.dropWhile_cons_of_neg (by simp [hb])

/-- A token stands behind the blanks just when skipping them leads to it. -/
theorem skipSpace_eq_cons_iff : skipSpace s = b :: r ↔ Blank s (b :: r) ∧ isSpace b = false := by
  constructor
  · intro h
    refine ⟨h ▸ blank_skipSpace s, ?_⟩
    have := List.head?_dropWhile_not isSpace s
    unfold skipSpace at h
    rw [h] at this
    simpa using this
  · rintro ⟨h, hb⟩
    rw [h.skipSpace_eq, skipSpace_cons hb]

theorem skipSpace_eq_nil_iff : skipSpace s = [] ↔ Blank s [] :=
  ⟨fun h => h ▸ blank_skipSpace s, fun h => h.skipSpace_eq⟩

/-! ## 3. Escapes -/

theorem simpleEscape?_eq_some_iff {c : Char} : simpleEscape? b = some c ↔ (b, c) ∈ letters := by
  constructor
  · intro h
    unfold simpleEscape? at h
    repeat' split at h
    all_goals cases h
    all_goals subst b; decide
  · intro h
    have : ∀ p ∈ letters, simpleEscape? p.1 = some p.2 := by decide
    exact this (b, c) h

/-- The number that four bytes spell. -/
def fourDigits? (a b c d : UInt8) : Option Nat :=
  pushDigit (pushDigit (pushDigit (pushDigit (some 0) a) b) c) d

theorem pushDigit_eq_some_iff {v : Option Nat} {n : Nat} :
    pushDigit v b = some n ↔ ∃ m k, v = some m ∧ hexValue? b = some k ∧ m * 16 + k = n := by
  unfold pushDigit
  cases v <;> cases hexValue? b <;> simp

theorem fourDigits_iff {n : Nat} :
    FourDigits s n r ↔ ∃ a b c d, s = a :: b :: c :: d :: r ∧ fourDigits? a b c d = some n := by
  constructor
  · rintro ⟨r, ha, hb, hc, hd⟩
    refine ⟨_, _, _, _, rfl, ?_⟩
    simp only [fourDigits?, pushDigit, ha, hb, hc, hd, Nat.zero_mul, Nat.zero_add]
  · rintro ⟨a, b, c, d, rfl, h⟩
    obtain ⟨_, l, h₃, hd, rfl⟩ := pushDigit_eq_some_iff.mp h
    obtain ⟨_, k, h₂, hc, rfl⟩ := pushDigit_eq_some_iff.mp h₃
    obtain ⟨_, j, h₁, hb, rfl⟩ := pushDigit_eq_some_iff.mp h₂
    obtain ⟨_, i, h₀, ha, rfl⟩ := pushDigit_eq_some_iff.mp h₁
    cases h₀
    rw [Nat.zero_mul, Nat.zero_add]
    exact .mk r ha hb hc hd

theorem fourDigits_cons_iff {a b c d : UInt8} {n : Nat} :
    FourDigits (a :: b :: c :: d :: t) n r ↔ fourDigits? a b c d = some n ∧ t = r := by
  rw [fourDigits_iff]
  constructor
  · rintro ⟨_, _, _, _, hs, h⟩
    cases hs
    exact ⟨h, rfl⟩
  · rintro ⟨h, rfl⟩
    exact ⟨a, b, c, d, rfl, h⟩

theorem FourDigits.lt {n : Nat} (h : FourDigits s n r) : n < 0x10000 := by
  obtain ⟨r, ha, hb, hc, hd⟩ := h
  have := (hexValue?_eq_some ha).1
  have := (hexValue?_eq_some hb).1
  have := (hexValue?_eq_some hc).1
  have := (hexValue?_eq_some hd).1
  omega

theorem FourDigits.length {n : Nat} (h : FourDigits s n r) : s.length = r.length + 4 := by
  obtain ⟨r⟩ := h
  rfl

theorem Escape.length_lt {c : Char} (h : Escape s c r) : r.length < s.length := by
  cases h with
  | letter => simp
  | digits h =>
    simp only [List.length_cons, h.length]
    omega
  | pair hs ht =>
    have := ht.length
    simp only [List.length_cons, hs.length]
    omega

/-- The first three digits of an escape. -/
theorem readBody_threeDigits (high : Option Nat) (a b c d : UInt8) (r : Bytes) :
    readBody (.digits high 0 (some 0)) (a :: b :: c :: d :: r) =
      readBody (.digits high 3 (pushDigit (pushDigit (pushDigit (some 0) a) b) c)) (d :: r) := by
  rw [readBody_inner (by simp) rfl, readBody_inner (by simp) rfl, readBody_inner (by simp) rfl]

theorem escapeStep_fourth (high : Option Nat) (a b c d : UInt8) :
    escapeStep (.digits high 3 (pushDigit (pushDigit (pushDigit (some 0) a) b) c)) d =
      afterDigits high (fourDigits? a b c d) := rfl

/-- Four digits that complete a character. -/
theorem readBody_fourDigits {high : Option Nat} {n : Nat} {c : Char} (h : FourDigits s n r)
    (ha : afterDigits high (some n) = .ok (.plain, some c)) :
    readBody (.digits high 0 (some 0)) s =
      (readBody .plain r).map fun p => (String.utf8EncodeChar c ++ p.1, p.2) := by
  obtain ⟨_, _, _, _, rfl, hn⟩ := fourDigits_iff.mp h
  rw [readBody_threeDigits]
  exact readBody_last (by simp) (by rw [escapeStep_fourth, hn, ha]) r

/-- Four digits that complete none. -/
theorem readBody_fourDigits_none {high : Option Nat} {n : Nat} {st : StringState}
    (h : FourDigits s n r) (ha : afterDigits high (some n) = .ok (st, none)) :
    readBody (.digits high 0 (some 0)) s = readBody st r := by
  obtain ⟨_, _, _, _, rfl, hn⟩ := fourDigits_iff.mp h
  rw [readBody_threeDigits]
  exact readBody_inner (by simp) (by rw [escapeStep_fourth, hn, ha]) r

/-- Where four digits must stand, reading goes on only behind four digits, and only if their number
    may stand there. -/
theorem exists_fourDigits {high : Option Nat} {p : Bytes × Bytes}
    (h : readBody (.digits high 0 (some 0)) s = .ok p) :
    ∃ n t q, FourDigits s n t ∧ afterDigits high (some n) = .ok q := by
  match s, h with
  | a :: b :: c :: d :: t, h =>
    rw [readBody_threeDigits] at h
    rw [readBody, escapeStep_fourth] at h
    cases hn : fourDigits? a b c d with
    | none =>
      rw [hn, show afterDigits high none = .error .escapeUnknown by cases high <;> rfl] at h
      cases h
    | some n =>
      cases ha : afterDigits high (some n) with
      | error e =>
        rw [hn, ha] at h
        cases h
      | ok q => exact ⟨n, t, q, fourDigits_iff.mpr ⟨a, b, c, d, rfl, hn⟩, ha⟩
    all_goals exact StringState.noConfusion
  | [], h => cases h
  | [a], h =>
    rw [readBody_inner (by simp) rfl] at h
    cases h
  | [a, b], h =>
    rw [readBody_inner (by simp) rfl, readBody_inner (by simp) rfl] at h
    cases h
  | [a, b, c], h =>
    rw [readBody_inner (by simp) rfl, readBody_inner (by simp) rfl,
      readBody_inner (by simp) rfl] at h
    cases h

/-- Whatever the character of an escape, reading goes on behind it. -/
theorem readBody_of_escape {c : Char} (h : Escape s c t) :
    readBody .escape s =
      (readBody .plain t).map fun p => (String.utf8EncodeChar c ++ p.1, p.2) := by
  have hu : ∀ s, readBody .escape (0x75 :: s) = readBody (.digits none 0 (some 0)) s :=
    readBody_inner (by simp) rfl
  cases h with
  | @letter b _ _ hb =>
    have hb' : b ≠ 0x75 := by
      rintro rfl
      exact absurd (simpleEscape?_eq_some_iff.mpr hb) (by simp [simpleEscape?])
    exact readBody_last (by simp)
      (by simp [escapeStep, hb', simpleEscape?_eq_some_iff.mpr hb]) t
  | digits h hc =>
    subst hc
    have hv : c.toNat < 0xD800 ∨ 0xDFFF < c.toNat ∧ c.toNat < 0x110000 := c.valid
    have hlow : isLowSurrogate c.toNat = false := by simp [isLowSurrogate]; omega
    have hhigh : isHighSurrogate c.toNat = false := by simp [isHighSurrogate]; omega
    rw [hu]
    exact readBody_fourDigits h (by simp [afterDigits, hlow, hhigh, Char.ofNat_toNat])
  | @pair s u _ high low _ hs ht hhigh hlow hc =>
    have hh : isLowSurrogate high = false := by simp [isLowSurrogate]; omega
    have hh' : isHighSurrogate high = true := by simp [isHighSurrogate]; omega
    have hl : isLowSurrogate low = true := by simp [isLowSurrogate]; omega
    rw [hu, readBody_fourDigits_none hs (by simp only [afterDigits, hh, hh']; rfl),
      readBody_inner (by simp) rfl, readBody_inner (by simp) rfl]
    exact readBody_fourDigits ht (by simp [afterDigits, hl, ofSurrogates, ← hc, Char.ofNat_toNat])

/-- Behind the escape of a high surrogate, reading goes on only where another escape of four digits
    starts. -/
theorem exists_pair {high : Nat} {p : Bytes × Bytes} (h : readBody (.slash high) s = .ok p) :
    ∃ t, s = 0x5C :: 0x75 :: t ∧ readBody (.digits (some high) 0 (some 0)) t = .ok p := by
  match s, h with
  | [], h => cases h
  | b :: s, h =>
    by_cases hb : b = 0x5C
    · subst hb
      rw [readBody_inner (by simp) rfl] at h
      match s, h with
      | [], h => cases h
      | c :: s, h =>
        by_cases hc : c = 0x75
        · subst hc
          rw [readBody_inner (by simp) rfl] at h
          exact ⟨s, rfl, h⟩
        · simp only [readBody, escapeStep, if_neg hc] at h
          cases h
    · simp only [readBody, escapeStep, if_neg hb] at h
      cases h

/-- Behind a backslash, reading goes on only if an escape stands there. -/
theorem exists_escape {p : Bytes × Bytes} (h : readBody .escape s = .ok p) :
    ∃ c t, Escape s c t := by
  match s, h with
  | [], h => cases h
  | b :: s, h =>
    by_cases hb : b = 0x75
    · subst hb
      rw [readBody_inner (by simp) rfl] at h
      obtain ⟨n, t, q, hn, ha⟩ := exists_fourDigits h
      have hlt := hn.lt
      simp only [afterDigits] at ha
      split at ha
      · cases ha
      rename_i hlow
      split at ha
      · rename_i hhigh
        have hafter : afterDigits none (some n) = .ok (.slash n, none) :=
          (if_neg hlow).trans (if_pos hhigh)
        rw [readBody_fourDigits_none hn hafter] at h
        obtain ⟨u, rfl, hu⟩ := exists_pair h
        obtain ⟨low, v, q', hv, ha'⟩ := exists_fourDigits hu
        simp only [afterDigits] at ha'
        split at ha'
        · rename_i hl
          simp only [isHighSurrogate, isLowSurrogate, Bool.and_eq_true, decide_eq_true_eq]
            at hhigh hl
          exact ⟨_, v, .pair hn hv hhigh hl (Utf8.toNat_ofNat (by omega))⟩
        · cases ha'
      · rename_i hhigh
        simp only [isHighSurrogate, isLowSurrogate, Bool.and_eq_true, decide_eq_true_eq]
          at hhigh hlow
        exact ⟨_, t, .digits hn (Utf8.toNat_ofNat (by omega))⟩
    · cases hc : simpleEscape? b with
      | none =>
        simp only [readBody, escapeStep, if_neg hb, hc] at h
        cases h
      | some c => exact ⟨c, s, .letter s (simpleEscape?_eq_some_iff.mp hc)⟩

/-! ## 4. Strings -/

theorem StringData.length_lt (h : StringData s data r) : r.length < s.length := by
  induction h with
  | close => simp
  | byte => simp only [List.length_cons]; omega
  | escape he =>
    have := he.length_lt
    simp only [List.length_cons]
    omega

theorem stringData_of_readBody {s data r : Bytes} (h : readBody .plain s = .ok (data, r)) :
    StringData s data r := by
  match s, h with
  | [], h => cases h
  | b :: s, h =>
    rw [readBody] at h
    split at h
    · subst b
      cases h
      exact .close _
    split at h
    · subst b
      obtain ⟨c, t, he⟩ := exists_escape h
      have hlt := he.length_lt
      rw [readBody_of_escape he] at h
      obtain ⟨p, ht, hp⟩ := map_eq_ok_iff.mp h
      cases hp
      exact .escape he (stringData_of_readBody ht)
    split at h
    · cases h
    rename_i hq hs hc
    obtain ⟨p, ht, hp⟩ := map_eq_ok_iff.mp h
    cases hp
    exact .byte ⟨hq, hs, UInt8.not_lt.mp hc⟩ (stringData_of_readBody ht)
termination_by s.length

theorem readBody_of_stringData (h : StringData s data r) :
    readBody .plain s = .ok (data, r) := by
  induction h with
  | close r => rw [readBody, if_pos rfl]
  | byte hb _ ih =>
    rw [readBody, if_neg hb.1, if_neg hb.2.1, if_neg (UInt8.not_lt.mpr hb.2.2), ih]
    rfl
  | escape he _ ih =>
    rw [readBody_backslash, readBody_of_escape he, ih]
    rfl

/-- **A string is read just when it is one, and what is read is the bytes it stands for.** -/
theorem readBody_eq_ok_iff : readBody .plain s = .ok (data, r) ↔ StringData s data r :=
  ⟨stringData_of_readBody, readBody_of_stringData⟩

/-- **A text is read just when the bytes that the string stands for are those of the text.** -/
theorem readString_eq_ok_iff {text : String} :
    readString s = .ok (text, r) ↔ StringForm s text r := by
  unfold readString StringForm
  constructor
  · intro h
    cases hb : readBody .plain s with
    | error e =>
      rw [hb] at h
      cases h
    | ok p =>
      cases hd : Utf8.decode p.1 with
      | error e => simp [hb, hd] at h
      | ok cs =>
        simp only [hb, hd, Except.ok.injEq, Prod.mk.injEq] at h
        obtain ⟨rfl, rfl⟩ := h
        have := readBody_eq_ok_iff.mp hb
        rwa [Utf8.decode_eq_ok_iff.mp hd, ← @String.toList_ofList cs] at this
  · intro h
    rw [readBody_eq_ok_iff.mpr h]
    simp only [Utf8.ofString, Utf8.decode_encode, String.ofList_toList]

/-! ## 5. Strings that are passed over -/

theorem SkippedString.length_lt (h : SkippedString s r) : r.length < s.length := by
  induction h with
  | close => simp
  | byte | letter => simp only [List.length_cons]; omega
  | digits hs => simp only [List.length_cons, hs.length]; omega

theorem skipBody_letter {c : Char} (h : (b, c) ∈ letters) (r : Bytes) :
    skipBody .plain (0x5C :: b :: r) = skipBody .plain r := by
  have hc := simpleEscape?_eq_some_iff.mpr h
  have hb : b ≠ 0x75 := by
    rintro rfl
    exact absurd hc (by simp [simpleEscape?])
  rw [skipBody, if_neg (by decide), if_pos rfl, skipBody, if_neg hb, hc]
  rfl

theorem skipBody_digit {k : Nat} {v : Bool} (hk : k ≠ 3) (b : UInt8) (r : Bytes) :
    skipBody (.digits k v) (b :: r) =
      skipBody (.digits (k + 1) (v && (hexValue? b).isSome)) r :=
  if_neg hk

theorem skipBody_unicode (s : Bytes) :
    skipBody .plain (0x5C :: 0x75 :: s) = skipBody (.digits 0 true) s := rfl

theorem isSome_fourDigits? (a b c d : UInt8) : (fourDigits? a b c d).isSome =
    (((true && (hexValue? a).isSome) && (hexValue? b).isSome) && (hexValue? c).isSome &&
      (hexValue? d).isSome) := by
  unfold fourDigits? pushDigit
  cases hexValue? a <;> cases hexValue? b <;> cases hexValue? c <;> cases hexValue? d <;> rfl

/-- Where four digits must stand, passing over goes on just behind four digits. -/
theorem skipBody_digits_eq_ok_iff :
    skipBody (.digits 0 true) s = .ok r ↔ ∃ n t, FourDigits s n t ∧ skipBody .plain t = .ok r := by
  match s with
  | a :: b :: c :: d :: t =>
    rw [skipBody_digit (by decide), skipBody_digit (by decide), skipBody_digit (by decide),
      skipBody]
    simp only [fourDigits_cons_iff, ← isSome_fourDigits?]
    cases fourDigits? a b c d with
    | none => simp [stopAt]
    | some n =>
      rw [if_pos trivial, if_pos Option.isSome_some]
      constructor
      · intro h
        exact ⟨n, t, ⟨rfl, rfl⟩, h⟩
      · rintro ⟨_, _, ⟨-, rfl⟩, h⟩
        exact h
  | [] | [a] | [a, b] | [a, b, c] => simp [fourDigits_iff, skipBody, stopAt]

theorem skippedString_of_skipBody {s r : Bytes} (h : skipBody .plain s = .ok r) :
    SkippedString s r := by
  match s, h with
  | [], h => cases h
  | b :: s, h =>
    rw [skipBody] at h
    split at h
    · subst b
      cases h
      exact .close _
    split at h
    · subst b
      cases s with
      | nil => cases h
      | cons b s =>
        rw [skipBody] at h
        split at h
        · subst b
          obtain ⟨n, t, hn, ht⟩ := skipBody_digits_eq_ok_iff.mp h
          have := hn.length
          exact .digits hn (skippedString_of_skipBody ht)
        split at h
        · rename_i hc
          obtain ⟨c, hc⟩ := Option.isSome_iff_exists.mp hc
          exact .letter (simpleEscape?_eq_some_iff.mp hc) (skippedString_of_skipBody h)
        · cases h
    split at h
    · cases h
    · rename_i hq hs hc
      exact .byte ⟨hq, hs, UInt8.not_lt.mp hc⟩ (skippedString_of_skipBody h)
termination_by s.length
decreasing_by all_goals grind

theorem skipBody_of_skippedString (h : SkippedString s r) : skipBody .plain s = .ok r := by
  induction h with
  | close r => rw [skipBody, if_pos rfl]
  | byte hb _ ih =>
    rw [skipBody, if_neg hb.1, if_neg hb.2.1, if_neg (UInt8.not_lt.mpr hb.2.2), ih]
  | letter hb _ ih => rw [skipBody_letter hb, ih]
  | digits hs _ ih =>
    rw [skipBody_unicode]
    exact skipBody_digits_eq_ok_iff.mpr ⟨_, _, hs, ih⟩

/-- **A string is passed over just when it has the form of one.** -/
theorem skipString_eq_ok_iff : skipString s = .ok r ↔ SkippedString s r :=
  ⟨skippedString_of_skipBody, skipBody_of_skippedString⟩

end DeviceKeys.Json
