import DeviceKeys.Proofs.Json.Number

/-! # Values are passed over as the grammar says

`skipLoop` has a list of open brackets where the grammar has a tree.

* `Closes` says what stands behind a value for the brackets around it to be closed, and `Resumes`
  what stands where the loop goes on. Every round keeps the two in step
  (`closes_of_skipClosing`), so what is passed over is a value (`skippedValue_of_skipLoop`).
* In return the loop comes to the end of every value, with the same brackets open
  (`skipLoop_of_value`, by induction on the grammar).
* **`skipValue_eq_ok_iff`**: a value of any depth is passed over just when it has the form of one.
-/

namespace DeviceKeys.Json

variable {s r t u : Bytes} {b : UInt8}

/-! ## 1. Tokens -/

theorem readWord_eq_ok_iff : ∀ {w s : Bytes}, readWord w s = .ok r ↔ s = w ++ r
  | [], s => by simp [readWord]
  | e :: es, [] => by simp [readWord, stopAt]
  | e :: es, b :: s => by
    unfold readWord
    split
    · rename_i h
      rw [readWord_eq_ok_iff, h]
      simp
    · rename_i h
      simp [stopAt, h]

theorem mem_words {w : String} (h : w ∈ words) : w = "null" ∨ w = "true" ∨ w = "false" := by
  simpa [words] using h

/-- What is passed over in one go is a value without brackets, or the byte that opens one. -/
theorem token_of_skipToken {token : Option Bracket} (h : skipToken s = .ok (token, r)) :
    (token = none ∧ Scalar s r) ∨ ∃ f : Bracket, token = some f ∧ s = f.opening :: r := by
  have scalar {x : Except Fault Bytes} (h : x.map (none, ·) = .ok (token, r))
      (hs : x = .ok r → Scalar s r) :
      (token = none ∧ Scalar s r) ∨ ∃ f : Bracket, token = some f ∧ s = f.opening :: r := by
    obtain ⟨_, hx, hp⟩ := map_eq_ok_iff.mp h
    cases hp
    exact .inl ⟨rfl, hs hx⟩
  unfold skipToken at h
  split at h
  · cases h
  rename_i b s
  split at h
  · subst b
    exact scalar h fun hx => readWord_eq_ok_iff.mp hx ▸ .word (w := "null") r (by decide)
  split at h
  · subst b
    exact scalar h fun hx => readWord_eq_ok_iff.mp hx ▸ .word (w := "true") r (by decide)
  split at h
  · subst b
    exact scalar h fun hx => readWord_eq_ok_iff.mp hx ▸ .word (w := "false") r (by decide)
  split at h
  · subst b
    exact scalar h fun hx => .negative (magnitude_of_skipNumber hx)
  split at h
  · exact scalar h fun hx => .positive (magnitude_of_skipNumber hx)
  split at h
  · subst b
    exact scalar h fun hx => .string (skipString_eq_ok_iff.mp hx)
  split at h
  · subst b
    cases h
    exact .inr ⟨.list, rfl, rfl⟩
  split at h
  · subst b
    cases h
    exact .inr ⟨.object, rfl, rfl⟩
  · cases h

/-- A value without brackets is passed over as a whole where a number ends. -/
theorem skipToken_of_scalar (h : Scalar s r) (hr : NumberEnd r) : skipToken s = .ok (none, r) := by
  have word {w : Bytes} : (readWord w (w ++ r)).map ((none : Option Bracket), ·) = .ok (none, r) :=
    map_eq_ok_iff.mpr ⟨r, readWord_eq_ok_iff.mpr rfl, rfl⟩
  cases h with
  | word _ h =>
    rcases mem_words h with rfl | rfl | rfl
    · exact word (w := [0x75, 0x6C, 0x6C])
    · exact word (w := [0x72, 0x75, 0x65])
    · exact word (w := [0x61, 0x6C, 0x73, 0x65])
  | negative h => exact map_eq_ok_iff.mpr ⟨r, skipNumber_of_magnitude h hr, rfl⟩
  | string h => exact map_eq_ok_iff.mpr ⟨r, skipString_eq_ok_iff.mpr h, rfl⟩
  | positive h =>
    obtain ⟨d, t, rfl, hd⟩ := h.head
    have hne : ∀ b : UInt8, isDigit b = false → d ≠ b := fun b hb hdb => by
      rw [hdb, hb] at hd
      cases hd
    unfold skipToken
    simp only [if_neg (hne 0x6E rfl), if_neg (hne 0x74 rfl), if_neg (hne 0x66 rfl),
      if_neg (hne 0x2D rfl), if_pos hd]
    exact map_eq_ok_iff.mpr ⟨r, skipNumber_of_magnitude h hr, rfl⟩

theorem skipToken_opening (f : Bracket) (r : Bytes) :
    skipToken (f.opening :: r) = .ok (some f, r) := by
  cases f <;> rfl

/-! ## 2. What is passed over is a value -/

/-- What stands behind a value for the open brackets around it to be closed, innermost first. -/
def Closes : List Bracket → Bytes → Bytes → Prop
  | [], s, r => s = r
  | f :: fs, s, r => ∃ t, SkippedItems f false s t ∧ Closes fs t r

/-- What stands where the loop goes on: an item of the innermost open bracket, and what closes all
    of them. -/
def Resumes : List Bracket → Bytes → Bytes → Prop
  | [], s, r => s = r
  | f :: fs, s, r => ∃ t u, f.Lead s t ∧ SkippedValue t u ∧ Closes (f :: fs) u r

/-- How the loop goes on. -/
def resume (n : Nat) : List Bracket → Bytes → Except Fault Bytes
  | [], s => .ok s
  | .list :: fs, s => skipLoop n (.list :: fs) s
  | .object :: fs, s => skipName s >>= skipLoop n (.object :: fs)

theorem skipLoop_succ (n : Nat) (fs : List Bracket) (s : Bytes) : skipLoop (n + 1) fs s =
    skipToken (skipSpace s) >>= fun p => skipAfterToken fs p.1 p.2 >>= fun q =>
      resume n q.1 q.2 := by
  rw [skipLoop]
  cases skipToken (skipSpace s) with
  | error e => rfl
  | ok p =>
    simp only [bind, Except.bind]
    cases skipAfterToken fs p.1 p.2 with
    | error e => rfl
    | ok q =>
      obtain ⟨fs, r⟩ := q
      cases fs with
      | nil => rfl
      | cons f fs =>
        cases f with
        | list => rfl
        | object =>
          simp only [resume, bind, Except.bind]
          cases skipName r <;> rfl

theorem skipName_eq_ok_iff : skipName s = .ok r ↔
    ∃ t u, Blank s (0x22 :: t) ∧ SkippedString t u ∧ Blank u (0x3A :: r) := by
  constructor
  · intro h
    unfold skipName at h
    split at h
    · cases h
    rename_i b t hs
    split at h
    · subst b
      split at h
      · cases h
      rename_i u ht
      split at h
      · cases h
      rename_i c v hu
      split at h
      · subst c
        cases h
        exact ⟨t, u, (skipSpace_eq_cons_iff.mp hs).1, skipString_eq_ok_iff.mp ht,
          (skipSpace_eq_cons_iff.mp hu).1⟩
      · cases h
    · cases h
  · rintro ⟨t, u, hs, ht, hu⟩
    unfold skipName
    rw [skipSpace_eq_cons_iff.mpr ⟨hs, rfl⟩]
    simp only [if_true, skipString_eq_ok_iff.mpr ht, skipSpace_eq_cons_iff.mpr ⟨hu, rfl⟩]

theorem closes_of_skipClosing : ∀ {fs gs : List Bracket} {s t r : Bytes},
    skipClosing fs s = .ok (gs, t) → Resumes gs t r → Closes fs s r
  | [], gs, s, t, r, h, hr => by
    cases h
    exact hr
  | f :: fs, gs, s, t, r, h, hr => by
    unfold skipClosing at h
    split at h
    · cases h
    rename_i b u hs
    split at h
    · subst b
      cases h
      obtain ⟨v, w, hl, hv, x, hx, hc⟩ := hr
      exact ⟨x, .item (skipSpace_eq_cons_iff.mp hs).1 hl hv hx, hc⟩
    split at h
    · subst b
      exact ⟨u, .close (skipSpace_eq_cons_iff.mp hs).1, closes_of_skipClosing h hr⟩
    · cases h

theorem Bracket.Lead.of_blank {f : Bracket} (h : Blank s t) (hl : f.Lead t r) : f.Lead s r := by
  cases f with
  | list => exact h.trans hl
  | object =>
    obtain ⟨u, v, w, hu, hv⟩ := hl
    exact ⟨u, v, w, h.trans hu, hv⟩

/-- **What the loop passes over is a value, and what closes the open brackets.** -/
theorem skippedValue_of_skipLoop : ∀ {n : Nat} {fs : List Bracket} {s r : Bytes},
    skipLoop n fs s = .ok r → ∃ t u, Blank s t ∧ SkippedValue t u ∧ Closes fs u r
  | 0, _, _, _, h => by cases h
  | n + 1, fs, s, r, h => by
    rw [skipLoop_succ] at h
    obtain ⟨⟨token, u⟩, ht, h⟩ := bind_eq_ok_iff.mp h
    obtain ⟨⟨gs, v⟩, ha, h⟩ := bind_eq_ok_iff.mp h
    have hr : Resumes gs v r := by
      match gs, h with
      | [], h =>
        cases h
        rfl
      | .list :: gs, h =>
        obtain ⟨t, u, hs, hv, hc⟩ := skippedValue_of_skipLoop h
        exact ⟨t, u, hs, hv, hc⟩
      | .object :: gs, h =>
        obtain ⟨w, hn, h⟩ := bind_eq_ok_iff.mp h
        obtain ⟨x, y, hx, hy, hw⟩ := skipName_eq_ok_iff.mp hn
        obtain ⟨t, u, hs, hv, hc⟩ := skippedValue_of_skipLoop h
        exact ⟨t, u, ⟨x, y, w, hx, hy, hw, hs⟩, hv, hc⟩
    rcases token_of_skipToken ht with ⟨rfl, hsc⟩ | ⟨f, rfl, hf⟩
    · exact ⟨skipSpace s, u, blank_skipSpace s, .scalar hsc, closes_of_skipClosing ha hr⟩
    · unfold skipAfterToken at ha
      simp only at ha
      split at ha
      · cases ha
      rename_i b w hb
      split at ha
      · subst b
        refine ⟨skipSpace s, w, blank_skipSpace s, ?_, closes_of_skipClosing ha hr⟩
        rw [hf]
        exact .bracket (.close (skipSpace_eq_cons_iff.mp hb).1)
      · cases ha
        obtain ⟨x, y, hl, hv, z, hz, hc⟩ := hr
        refine ⟨skipSpace s, z, blank_skipSpace s, ?_, hc⟩
        rw [hf]
        exact .bracket (.item rfl (hl.of_blank (hb ▸ blank_skipSpace u)) hv hz)

/-! ## 3. Every value is passed over -/

theorem Bracket.Lead.length_le {f : Bracket} (h : f.Lead s r) : r.length ≤ s.length := by
  cases f with
  | list => exact Blank.length_le h
  | object =>
    obtain ⟨t, u, v, ht, hu, hv, hr⟩ := h
    have := ht.length_le
    have := hu.length_lt
    have := hv.length_le
    have := hr.length_le
    simp only [List.length_cons] at *
    omega

theorem Scalar.length_lt (h : Scalar s r) : r.length < s.length := by
  cases h with
  | word _ h =>
    rcases mem_words h with rfl | rfl | rfl <;>
      simp only [List.length_append, Nat.lt_add_left_iff_pos] <;> decide
  | positive h => exact h.length_lt
  | negative h | string h => exact Nat.lt_succ_of_lt h.length_lt

mutual

theorem SkippedValue.length_lt {s r : Bytes} : SkippedValue s r → r.length < s.length
  | .scalar h => h.length_lt
  | .bracket h => Nat.lt_succ_of_lt h.length_lt

theorem SkippedItems.length_lt {f : Bracket} {first : Bool} {s r : Bytes} :
    SkippedItems f first s r → r.length < s.length
  | .close h => h.length_le
  | .item hc hl hv h => by
    have := Comma.length_le hc
    have := Bracket.Lead.length_le hl
    have := hv.length_lt
    have := h.length_lt
    omega

end

/-- A value starts with a byte that is neither a blank nor a closing bracket. -/
theorem SkippedValue.head (h : SkippedValue s r) :
    ∃ b t, s = b :: t ∧ isSpace b = false ∧ b ≠ 0x5D := by
  cases h with
  | bracket h =>
    rename_i f t
    exact ⟨f.opening, t, rfl, by cases f <;> decide, by cases f <;> decide⟩
  | scalar h =>
    cases h with
    | word _ h =>
      rcases mem_words h with rfl | rfl | rfl
      · exact ⟨0x6E, _, rfl, by decide, by decide⟩
      · exact ⟨0x74, _, rfl, by decide, by decide⟩
      · exact ⟨0x66, _, rfl, by decide, by decide⟩
    | positive h =>
      obtain ⟨d, t, rfl, hd⟩ := h.head
      have hne : ∀ b : UInt8, isDigit b = false → d ≠ b := fun b hb hdb => by
        rw [hdb, hb] at hd
        cases hd
      refine ⟨d, t, rfl, ?_, hne 0x5D rfl⟩
      simp [isSpace, hne 0x20 rfl, hne 0x0A rfl, hne 0x09 rfl, hne 0x0D rfl]
    | negative => exact ⟨_, _, rfl, by decide, by decide⟩
    | string => exact ⟨_, _, rfl, by decide, by decide⟩

/-- Neither blanks nor a byte that ends a number can be part of one. -/
theorem Blank.numberEnd (h : Blank s (b :: r))
    (hb : isDigit b = false ∧ b ≠ 0x2E ∧ isExponentMark b = false) : NumberEnd s := by
  obtain ⟨ws, rfl, hw⟩ := h
  cases ws with
  | nil =>
    intro c hc
    cases hc
    exact hb
  | cons w ws =>
    intro c hc
    cases hc
    have := hw w List.mem_cons_self
    simp only [isSpace, Bool.or_eq_true, decide_eq_true_eq] at this
    rcases this with ((rfl | rfl) | rfl) | rfl <;> decide

/-- What follows a value in a bracket cannot be part of a number. -/
theorem SkippedItems.numberEnd {f : Bracket} (h : SkippedItems f false s r) : NumberEnd s := by
  cases h with
  | close h => exact h.numberEnd (by cases f <;> decide)
  | item hc => exact Blank.numberEnd hc (by decide)

/-- The loop with the brackets open around a value, from the bytes after the value on. -/
def carryOn (n : Nat) (fs : List Bracket) (s : Bytes) : Except Fault Bytes :=
  skipClosing fs s >>= fun q => resume n q.1 q.2

/-- The loop from the bytes after the opening of a bracket on. -/
def enter (n : Nat) (fs : List Bracket) (f : Bracket) (s : Bytes) : Except Fault Bytes :=
  skipAfterToken fs (some f) s >>= fun q => resume n q.1 q.2

theorem skipLoop_skipSpace (n : Nat) (fs : List Bracket) (h : skipSpace s = skipSpace t) :
    skipLoop n fs s = skipLoop n fs t := by
  cases n with
  | zero => rfl
  | succ n => rw [skipLoop_succ, skipLoop_succ, h]

theorem resume_skipSpace (n : Nat) (f : Bracket) (fs : List Bracket) (s : Bytes) :
    resume n (f :: fs) (skipSpace s) = resume n (f :: fs) s := by
  have hs : skipSpace (skipSpace s) = skipSpace s := (blank_skipSpace s).skipSpace_eq.symm
  cases f with
  | list => exact skipLoop_skipSpace n _ hs
  | object => simp only [resume, skipName, hs]

theorem resume_of_lead {f : Bracket} (n : Nat) (fs : List Bracket) (h : f.Lead s t) :
    resume n (f :: fs) s = skipLoop n (f :: fs) t := by
  cases f with
  | list => exact skipLoop_skipSpace n _ h.skipSpace_eq
  | object =>
    obtain ⟨u, v, w, hu, hv, hw, ht⟩ := h
    rw [resume, skipName_eq_ok_iff.mpr ⟨u, v, hu, hv, hw⟩]
    exact skipLoop_skipSpace n _ ht.skipSpace_eq

theorem skipLoop_of_scalar (h : Scalar s r) (hr : NumberEnd r) (n : Nat) (fs : List Bracket) :
    skipLoop (n + 1) fs s = carryOn n fs r := by
  obtain ⟨b, t, rfl, hb, -⟩ := (SkippedValue.scalar h).head
  rw [skipLoop_succ, skipSpace_cons hb, skipToken_of_scalar h hr]
  rfl

theorem skipLoop_opening (f : Bracket) (s : Bytes) (n : Nat) (fs : List Bracket) :
    skipLoop (n + 1) fs (f.opening :: s) = enter n fs f s := by
  rw [skipLoop_succ, skipSpace_cons (by cases f <;> decide), skipToken_opening]
  rfl

theorem carryOn_of_comma (n : Nat) (f : Bracket) (fs : List Bracket) (h : Blank s (0x2C :: t)) :
    carryOn n (f :: fs) s = resume n (f :: fs) t := by
  unfold carryOn skipClosing
  rw [skipSpace_eq_cons_iff.mpr ⟨h, rfl⟩]
  rfl

/-- The first item of a bracket, which does not close it. -/
theorem enter_of_lead {f : Bracket} (n : Nat) (fs : List Bracket) (h : f.Lead s t)
    (ht : ∃ b u, t = b :: u ∧ isSpace b = false ∧ b ≠ 0x5D) :
    enter n fs f s = skipLoop n (f :: fs) t := by
  obtain ⟨b, u, hs, hb⟩ : ∃ b u, skipSpace s = b :: u ∧ b ≠ f.closing := by
    cases f with
    | list =>
      obtain ⟨b, u, rfl, hb, hne⟩ := ht
      exact ⟨b, u, skipSpace_eq_cons_iff.mpr ⟨h, hb⟩, hne⟩
    | object =>
      obtain ⟨u, v, w, hu, -, -, -⟩ := h
      exact ⟨0x22, u, skipSpace_eq_cons_iff.mpr ⟨hu, rfl⟩, by decide⟩
  have hr : enter n fs f s = resume n (f :: fs) (skipSpace s) := by
    unfold enter skipAfterToken
    simp only [hs, if_neg hb]
    rfl
  rw [hr, resume_skipSpace, resume_of_lead n fs h]

mutual

/-- **The loop comes to the end of every value, with the same brackets open.** -/
theorem skipLoop_of_value {s r : Bytes} : SkippedValue s r → NumberEnd r →
    ∀ (n : Nat) (fs : List Bracket), s.length ≤ n →
      ∃ m, r.length ≤ m ∧ skipLoop n fs s = carryOn m fs r
  | .scalar h, hr, n, fs, hn => by
    have := h.length_lt
    obtain ⟨n, rfl⟩ : ∃ m, n = m + 1 := ⟨n - 1, by omega⟩
    exact ⟨n, by omega, skipLoop_of_scalar h hr n fs⟩
  | .bracket (f := f) (s := s) h, hr, n, fs, hn => by
    simp only [List.length_cons] at hn
    obtain ⟨n, rfl⟩ : ∃ m, n = m + 1 := ⟨n - 1, by omega⟩
    rw [skipLoop_opening]
    exact skipLoop_of_items h n fs (by omega)

/-- The loop comes to the end of every list of items. -/
theorem skipLoop_of_items {f : Bracket} {first : Bool} {s r : Bytes} : SkippedItems f first s r →
    ∀ (n : Nat) (fs : List Bracket), s.length ≤ n → ∃ m, r.length ≤ m ∧
      (if first then enter n fs f s else carryOn n (f :: fs) s) = carryOn m fs r
  | .close h, n, fs, hn => by
    refine ⟨n, Nat.le_trans (Nat.le_of_succ_le h.length_le) hn, ?_⟩
    have hs := skipSpace_eq_cons_iff.mpr ⟨h, by cases f <;> decide⟩
    have hne : f.closing ≠ 0x2C := by cases f <;> decide
    cases first with
    | true => simp only [if_true, enter, skipAfterToken, hs]; rfl
    | false =>
      simp only [Bool.false_eq_true, if_false, carryOn, skipClosing, hs, if_neg hne, if_true]
  | .item (t := t) (u := u) hc hl hv h, n, fs, hn => by
    have hu := Bracket.Lead.length_le hl
    cases first with
    | true =>
      obtain rfl : s = t := hc
      obtain ⟨m, hm, hloop⟩ := skipLoop_of_value hv h.numberEnd n (f :: fs) (by omega)
      obtain ⟨k, hk, hi⟩ := skipLoop_of_items h m fs hm
      refine ⟨k, hk, ?_⟩
      rw [if_pos rfl, enter_of_lead n fs hl hv.head, hloop]
      exact hi
    | false =>
      have ht := Blank.length_le hc
      simp only [List.length_cons] at ht
      obtain ⟨m, hm, hloop⟩ := skipLoop_of_value hv h.numberEnd n (f :: fs) (by omega)
      obtain ⟨k, hk, hi⟩ := skipLoop_of_items h m fs hm
      refine ⟨k, hk, ?_⟩
      rw [if_neg (by simp), carryOn_of_comma n f fs hc, resume_of_lead n fs hl, hloop]
      exact hi

end

/-- **A value that ends where no number goes on is passed over just when it has the form of
    one.** -/
theorem skipValue_eq_ok_iff (hr : NumberEnd r) :
    skipValue s = .ok r ↔ ∃ t, Blank s t ∧ SkippedValue t r := by
  unfold skipValue
  constructor
  · intro h
    obtain ⟨t, u, hs, hv, rfl⟩ := skippedValue_of_skipLoop h
    exact ⟨t, hs, hv⟩
  · rintro ⟨t, hs, hv⟩
    have ht := hs.length_le
    obtain ⟨m, -, hm⟩ := skipLoop_of_value hv hr (s.length + 1) [] (by omega)
    rw [skipLoop_skipSpace _ _ hs.skipSpace_eq, hm]
    rfl

end DeviceKeys.Json
