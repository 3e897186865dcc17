import DeviceKeys.Proofs.Json.Strings

/-! # Numbers are passed over as the grammar says

What `skipNumber` passes over is a number (`magnitude_of_skipNumber`), and a number is passed over
as a whole if what follows it cannot be part of one (`NumberEnd`, `skipNumber_of_magnitude`).
-/

namespace DeviceKeys.Json

variable {s r t : Bytes} {b : UInt8}

/-- A number that stands in front of these bytes ends there. -/
def NumberEnd (r : Bytes) : Prop :=
  ∀ b ∈ r.head?, isDigit b = false ∧ b ≠ 0x2E ∧ isExponentMark b = false

theorem digits_skipDigits (hb : isDigit b = true) (r : Bytes) : Digits (b :: r) (skipDigits r) := by
  refine ⟨b, r.takeWhile isDigit, ?_, ?_⟩
  · rw [List.cons_append, skipDigits, List.takeWhile_append_dropWhile]
  · exact List.forall_mem_cons.mpr ⟨hb, List.all_eq_true.mp List.all_takeWhile⟩

/-- Digits are passed over as a whole where they end. -/
theorem Digits.skipDigits_eq (h : Digits s r) (hr : ∀ b ∈ r.head?, isDigit b = false) :
    ∃ d t, s = d :: t ∧ isDigit d = true ∧ skipDigits t = r := by
  obtain ⟨d, ds, rfl, hd⟩ := h
  obtain ⟨hd, hds⟩ := List.forall_mem_cons.mp hd
  refine ⟨d, ds ++ r, rfl, hd, ?_⟩
  unfold skipDigits
  rw [List.dropWhile_append_of_pos hds]
  cases r with
  | nil => rfl
  | cons b r => exact List.dropWhile_cons_of_neg (by simp [hr b rfl])

/-- Where an exponent stands, passing over goes on behind a sign or without one. -/
theorem exponentSign_spec (s : Bytes) : s = (exponentSign s).2 ∨ s = 0x2B :: (exponentSign s).2 ∨
    s = 0x2D :: (exponentSign s).2 := by
  unfold exponentSign
  split <;> simp

theorem exponentSign_digit (hb : isDigit b = true) (r : Bytes) :
    (exponentSign (b :: r)).2 = b :: r := by
  unfold exponentSign
  split
  · rename_i h
    cases h
    exact absurd hb (by decide)
  · rename_i h
    cases h
    exact absurd hb (by decide)
  · rfl

theorem exponent_of_skipExponent {mark : UInt8} (hm : isExponentMark mark = true)
    (h : skipExponent s = .ok r) : Exponent (mark :: s) r := by
  unfold skipExponent at h
  split at h
  · cases h
  · rename_i b t he
    split at h
    · rename_i hb
      cases h
      exact .inr ⟨mark, s, b :: t, rfl, hm, he ▸ exponentSign_spec s, digits_skipDigits hb t⟩
    · cases h

/-- What `skipFraction` and `skipAfterInteger` do where only an exponent can stand. -/
theorem exponent_of_match (h : (match s with
    | b :: t => if isExponentMark b then skipExponent t else .ok s
    | [] => .ok s) = .ok r) : Exponent s r := by
  split at h
  · split at h
    · rename_i hm
      exact exponent_of_skipExponent hm h
    · cases h
      exact .inl rfl
  · cases h
    exact .inl rfl

theorem fraction_of_skipAfterInteger (h : skipAfterInteger s = .ok r) :
    ∃ t, Fraction s t ∧ Exponent t r := by
  unfold skipAfterInteger at h
  split at h
  · rename_i b t
    split at h
    · subst b
      unfold skipFraction at h
      simp only at h
      split at h
      · cases h
      rename_i hlen
      cases t with
      | nil => exact absurd rfl hlen
      | cons d t =>
        cases hd : isDigit d with
        | false => simp [skipDigits, hd] at hlen
        | true =>
          rw [show skipDigits (d :: t) = skipDigits t from List.dropWhile_cons_of_pos hd] at h
          exact ⟨skipDigits t, .inr ⟨d :: t, rfl, digits_skipDigits hd t⟩, exponent_of_match h⟩
    · exact ⟨b :: t, .inl rfl, exponent_of_match h⟩
  · cases h
    exact ⟨[], .inl rfl, .inl rfl⟩

/-- **What is passed over as a number is one.** -/
theorem magnitude_of_skipNumber (h : skipNumber s = .ok r) : Magnitude s r := by
  unfold skipNumber at h
  split at h
  · cases h
  rename_i b t
  split at h
  · subst b
    have ht : skipAfterInteger t = .ok r := by
      split at h
      · split at h
        · cases h
        · exact h
      · exact h
    obtain ⟨u, hf, he⟩ := fraction_of_skipAfterInteger ht
    exact ⟨t, u, .inl rfl, hf, he⟩
  rename_i hb
  split at h
  · rename_i hd
    obtain ⟨u, hf, he⟩ := fraction_of_skipAfterInteger h
    exact ⟨skipDigits t, u, .inr ⟨by simpa using hb, digits_skipDigits hd t⟩, hf, he⟩
  · cases h

/-- An exponent is passed over as a whole where it ends. -/
theorem skipExponent_of_exponent (h : Exponent s r) (hr : NumberEnd r) :
    s = r ∨ ∃ mark t, s = mark :: t ∧ isExponentMark mark = true ∧ skipExponent t = .ok r := by
  rcases h with rfl | ⟨mark, t, u, rfl, hm, ht, hd⟩
  · exact .inl rfl
  · obtain ⟨d, v, rfl, hd, hv⟩ := hd.skipDigits_eq fun b hb => (hr b hb).1
    have hs : (exponentSign t).2 = d :: v := by
      rcases ht with rfl | rfl | rfl
      · exact exponentSign_digit hd v
      · rfl
      · rfl
    refine .inr ⟨mark, t, rfl, hm, ?_⟩
    unfold skipExponent
    rw [hs]
    simp [hd, hv]

theorem isDigit_of_isExponentMark (h : isExponentMark b = true) : isDigit b = false ∧ b ≠ 0x2E := by
  simp only [isExponentMark, Bool.or_eq_true, decide_eq_true_eq] at h
  rcases h with rfl | rfl <;> decide

theorem match_of_exponent (h : Exponent s r) (hr : NumberEnd r) :
    (match s with
      | b :: t => if isExponentMark b then skipExponent t else .ok s
      | [] => .ok s) = .ok r ∧ ∀ b ∈ s.head?, isDigit b = false ∧ b ≠ 0x2E := by
  rcases skipExponent_of_exponent h hr with rfl | ⟨mark, t, rfl, hm, ht⟩
  · refine ⟨?_, fun b hb => ⟨(hr b hb).1, (hr b hb).2.1⟩⟩
    cases s with
    | nil => rfl
    | cons b s => simp [(hr b rfl).2.2]
  · exact ⟨by simp [hm, ht], by simpa using isDigit_of_isExponentMark hm⟩

theorem skipFraction_of_digits (h : Digits s t) (he : Exponent t r) (hr : NumberEnd r) :
    skipFraction s = .ok r := by
  obtain ⟨hm, ht⟩ := match_of_exponent he hr
  obtain ⟨d, u, rfl, hd, rfl⟩ := h.skipDigits_eq fun b hb => (ht b hb).1
  have hs : skipDigits (d :: u) = skipDigits u := List.dropWhile_cons_of_pos hd
  have hlen : (skipDigits u).length ≤ u.length := (List.dropWhile_sublist _).length_le
  unfold skipFraction
  simp only [hs, List.length_cons]
  rw [if_neg (by omega)]
  exact hm

theorem skipAfterInteger_of_fraction (hf : Fraction s t) (he : Exponent t r) (hr : NumberEnd r) :
    skipAfterInteger s = .ok r ∧ ∀ b ∈ s.head?, isDigit b = false := by
  rcases hf with rfl | ⟨u, rfl, hd⟩
  · obtain ⟨hm, ht⟩ := match_of_exponent he hr
    refine ⟨?_, fun b hb => (ht b hb).1⟩
    cases s with
    | nil => exact hm
    | cons b s =>
      unfold skipAfterInteger
      simp only [if_neg (ht b rfl).2]
      exact hm
  · exact ⟨skipFraction_of_digits hd he hr, by simp; decide⟩

/-- **A number is passed over as a whole where it ends.** -/
theorem skipNumber_of_magnitude (h : Magnitude s r) (hr : NumberEnd r) : skipNumber s = .ok r := by
  obtain ⟨t, u, hw, hf, he⟩ := h
  obtain ⟨hi, ht⟩ := skipAfterInteger_of_fraction hf he hr
  rcases hw with rfl | ⟨hz, hds⟩
  · unfold skipNumber
    simp only [if_true]
    cases t with
    | nil => exact hi
    | cons b t =>
      simp only [ht b rfl]
      exact hi
  · obtain ⟨d, v, rfl, hd, rfl⟩ := hds.skipDigits_eq ht
    replace hz : d ≠ 0x30 := by simpa using hz
    unfold skipNumber
    simp only [if_neg hz, if_pos hd, hi]

/-- A number starts with a digit. -/
theorem Magnitude.head (h : Magnitude s r) : ∃ d t, s = d :: t ∧ isDigit d = true := by
  obtain ⟨t, u, rfl | ⟨-, d, ds, rfl, hd⟩, -, -⟩ := h
  · exact ⟨0x30, t, rfl, by decide⟩
  · exact ⟨d, ds ++ t, rfl, hd d List.mem_cons_self⟩

theorem Digits.length_lt (h : Digits s r) : r.length < s.length := by
  obtain ⟨d, ds, rfl, -⟩ := h
  simp only [List.cons_append, List.length_cons, List.length_append]
  omega

theorem Magnitude.length_lt (h : Magnitude s r) : r.length < s.length := by
  obtain ⟨t, u, hw, hf, he⟩ := h
  have ht : t.length < s.length := by
    rcases hw with rfl | ⟨-, hd⟩
    · simp
    · exact hd.length_lt
  have hu : u.length ≤ t.length := by
    rcases hf with rfl | ⟨v, rfl, hd⟩
    · exact Nat.le_refl _
    · have := hd.length_lt
      simp only [List.length_cons]
      omega
  have hr : r.length ≤ u.length := by
    rcases he with rfl | ⟨mark, v, w, rfl, -, hv, hd⟩
    · exact Nat.le_refl _
    · have := hd.length_lt
      rcases hv with rfl | rfl | rfl <;> simp only [List.length_cons] <;> omega
  omega

end DeviceKeys.Json
