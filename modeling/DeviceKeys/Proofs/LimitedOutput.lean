import DeviceKeys.Proofs.Output

/-! # Outputs that take some bytes and then fail

A sink that is offered bytes takes as many of them as it likes, at least one, while it has room; the
rest is offered again, until it has taken all or refuses. `Sink.Offered` says what comes of offering
pieces in this way, and `Sink.offered_iff` that one thing only comes of it, however the sink cuts
the offers: that of a single write of all the pieces. An output that lets nothing wait ends in the
same way (`Output.writeAll_unbuffered`).
-/

namespace DeviceKeys

namespace Sink

variable {s s' : Sink} {a b data : Bytes} {pieces : List Bytes} {n : Nat} {e : IoFault}
  {r : Except IoFault Unit × Sink}

/-! ## 1. One write -/

/-- There is room for some bytes. -/
def Fits (s : Sink) (data : Bytes) : Prop := ∀ n, s.room = some n → data.length ≤ n

/-- The sink that has taken some bytes. -/
def taking (s : Sink) (data : Bytes) : Sink :=
  { s with received := s.received ++ data, room := s.room.map (· - data.length) }

theorem taking_append (s : Sink) (a b : Bytes) : s.taking (a ++ b) = (s.taking a).taking b := by
  obtain ⟨received, room, fault⟩ := s
  cases room with
  | none => simp [taking]
  | some n => simp [taking, Nat.sub_add_eq]

theorem write_of_fits (h : s.Fits data) : s.write data = (.ok (), s.taking data) := by
  unfold write taking
  cases hroom : s.room with
  | none => simp
  | some n =>
    have hle := h n hroom
    simp [hle, List.take_of_length_le hle]

/-- Of bytes that do not fit the sink takes the first ones. -/
theorem write_of_excess (hroom : s.room = some n) (h : n < data.length) :
    s.write data = (.error s.fault, s.taking (data.take n)) := by
  unfold write taking
  simp only [hroom, if_neg (Nat.not_le.mpr h), Option.map_some, List.length_take,
    Nat.min_eq_left (Nat.le_of_lt h)]
  rw [Nat.sub_self, Nat.sub_eq_zero_of_le (Nat.le_of_lt h)]

theorem write_nil (s : Sink) : s.write [] = (.ok (), s) := by
  have hfits : s.Fits [] := fun n _ => n.zero_le
  rw [write_of_fits hfits]
  obtain ⟨received, room, fault⟩ := s
  cases room <;> simp [taking]

/-- What does not fit at once does not fit with more behind it. -/
theorem fits_or_excess (s : Sink) (data : Bytes) :
    s.Fits data ∨ ∃ n, s.room = some n ∧ n < data.length := by
  cases hroom : s.room with
  | none => exact .inl fun n h => by rw [hroom] at h; cases h
  | some n =>
    rcases Nat.lt_or_ge n data.length with h | h
    · exact .inr ⟨n, rfl, h⟩
    · exact .inl fun m hm => by rw [hroom] at hm; cases hm; exact h

/-- **Bytes that fit may be written before the others.** -/
theorem write_append (h : s.Fits a) : s.write (a ++ b) = (s.taking a).write b := by
  rcases s.fits_or_excess (a ++ b) with hfits | ⟨n, hroom, hlt⟩
  · have hb : (s.taking a).Fits b := by
      intro m hm
      obtain ⟨n, hroom, rfl⟩ := Option.map_eq_some_iff.mp hm
      have := hfits n hroom
      rw [List.length_append] at this
      omega
    rw [write_of_fits hfits, write_of_fits hb, taking_append]
  · have hle := h n hroom
    have hroom' : (s.taking a).room = some (n - a.length) := by
      show s.room.map _ = _
      rw [hroom]
      rfl
    have hb : n - a.length < b.length := by
      rw [List.length_append] at hlt
      omega
    rw [write_of_excess hroom hlt, write_of_excess hroom' hb, List.take_append,
      List.take_of_length_le hle, taking_append]
    rfl

/-- After a write that failed, more bytes change nothing. -/
theorem write_append_of_error (h : s.write a = (.error e, s')) (b : Bytes) :
    s.write (a ++ b) = (.error e, s') := by
  rcases s.fits_or_excess a with hfits | ⟨n, hroom, hlt⟩
  · rw [write_of_fits hfits] at h
    cases h
  · rw [← h, write_of_excess hroom hlt, write_of_excess hroom (by rw [List.length_append]; omega),
      List.take_append_of_le_length (Nat.le_of_lt hlt)]

/-! ## 2. Offers -/

/-- What may come of offering pieces one after the other, when the sink takes a part of each offer
    and is offered the rest again: it has taken all (`done`), or it has no room left and is offered
    something (`refused`). -/
inductive Offered : Sink → List Bytes → Except IoFault Unit × Sink → Prop
  | done {s : Sink} : Offered s [] (.ok (), s)
  | next {s : Sink} {rest : List Bytes} {r : Except IoFault Unit × Sink}
      (later : Offered s rest r) : Offered s ([] :: rest) r
  | part {s : Sink} {a b : Bytes} {rest : List Bytes} {r : Except IoFault Unit × Sink}
      (some_taken : a ≠ []) (fits : s.Fits a) (later : Offered (s.taking a) (b :: rest) r) :
      Offered s ((a ++ b) :: rest) r
  | refused {s : Sink} {data : Bytes} {rest : List Bytes} (room : s.room = some 0)
      (offered : data ≠ []) : Offered s (data :: rest) (.error s.fault, s)

theorem Offered.eq_write (h : Offered s pieces r) : r = s.write pieces.flatten := by
  induction h with
  | done => rw [List.flatten_nil, write_nil]
  | next _ ih => rw [ih, List.flatten_cons, List.nil_append]
  | part _ hfits _ ih =>
    rw [ih, List.flatten_cons, List.flatten_cons, List.append_assoc, write_append hfits]
  | @refused s data rest hroom hne =>
    have hlt : 0 < (data :: rest).flatten.length := by
      rw [List.flatten_cons, List.length_append]
      have := List.length_pos_iff.mpr hne
      omega
    rw [write_of_excess hroom hlt, List.take_zero]
    obtain ⟨received, room, fault⟩ := s
    cases room <;> simp [taking]

/-- Every sink can take what it is offered in some way: as much as it has room for. -/
theorem exists_offered (s : Sink) (pieces : List Bytes) : ∃ r, Offered s pieces r := by
  induction pieces generalizing s with
  | nil => exact ⟨_, .done⟩
  | cons data rest ih =>
    by_cases hne : data = []
    · obtain ⟨r, h⟩ := ih s
      exact ⟨r, hne ▸ .next h⟩
    rcases s.fits_or_excess data with hfits | ⟨n, hroom, hlt⟩
    · obtain ⟨r, h⟩ := ih (s.taking data)
      have hpart := Offered.part hne hfits (.next h)
      exact ⟨r, by rwa [List.append_nil] at hpart⟩
    by_cases hn : n = 0
    · exact ⟨_, .refused (hn ▸ hroom) hne⟩
    -- the room is filled, and the rest is refused
    have hfits : s.Fits (data.take n) := by
      intro m hm
      rw [hroom] at hm
      cases hm
      exact List.length_take_le n data
    have hfull : (s.taking (data.take n)).room = some 0 := by
      show s.room.map _ = _
      rw [hroom, List.length_take, Nat.min_eq_left (Nat.le_of_lt hlt), Option.map_some,
        Nat.sub_self]
    have htaken : data.take n ≠ [] := by
      rw [ne_eq, List.take_eq_nil_iff]
      rintro (h | h)
      · exact hn h
      · exact hne h
    have hrest : data.drop n ≠ [] := by
      rw [ne_eq, List.drop_eq_nil_iff]
      omega
    have hpart : Offered s ((data.take n ++ data.drop n) :: rest) _ :=
      .part htaken hfits (.refused hfull hrest)
    exact ⟨_, by rwa [List.take_append_drop] at hpart⟩

/-- **However a sink cuts what it is offered, the same comes of it**, namely what comes of one write
    of all the pieces. -/
theorem offered_iff : Offered s pieces r ↔ r = s.write pieces.flatten := by
  refine ⟨Offered.eq_write, ?_⟩
  rintro rfl
  obtain ⟨r, h⟩ := exists_offered s pieces
  rwa [← h.eq_write]

end Sink

/-! ## 3. The output in front of a sink -/

namespace Output

/-- An output that lets nothing wait hands all the pieces to its sink. -/
theorem writeAll_unbuffered {o : Output} (h : o.capacity = 0) (pieces : List Bytes) :
    o.writeAll pieces = ((o.sink.write pieces.flatten).1,
      { o with sink := (o.sink.write pieces.flatten).2 }) := by
  induction pieces generalizing o with
  | nil =>
    rw [List.flatten_nil, Sink.write_nil]
    rfl
  | cons data rest ih =>
    have hwrite : o.write data =
        ((o.sink.write data).1, { o with sink := (o.sink.write data).2 }) :=
      if_pos h
    unfold writeAll
    rw [hwrite, List.flatten_cons]
    rcases o.sink.fits_or_excess data with hfits | ⟨n, hroom, hlt⟩
    · rw [Sink.write_of_fits hfits, Sink.write_append hfits]
      exact ih h
    · rw [Sink.write_append_of_error (Sink.write_of_excess hroom hlt),
        Sink.write_of_excess hroom hlt]

end Output

end DeviceKeys
