import DeviceKeys.Output

/-! # What an output takes

* `Output.Took`: an output that is given bytes has them all, or it has failed and a strict part of
  all it was given has reached its sink.
* `took_writeAll`: this is so of any pieces, written to any output that holds no more back than its
  capacity allows.
* `writeAll_unlimited`: the output without a limit prints every piece.
-/

namespace DeviceKeys.Output

variable {o o' : Output} {a b data : Bytes} {e : IoFault}

/-! ## 1. The bytes given -/

/-- All that an output was given: what has reached the sink, and what waits. -/
def content (o : Output) : Bytes := o.printed ++ o.waiting

/-- No more waits than there is room for. -/
def Bounded (o : Output) : Prop := o.waiting.length ≤ o.capacity

/-- An output that was given bytes: `all`, it has them; `part`, it has failed, and what has reached
    the sink is a strict part of all it was given. -/
inductive Took (o : Output) (data : Bytes) : Except IoFault Unit × Output → Prop
  | all {o' : Output} (grown : o.printed <+: o'.printed)
      (content_eq : o'.content = o.content ++ data) (bounded : o'.Bounded) :
      Took o data (.ok (), o')
  | part {e : IoFault} {o' : Output} (grown : o.printed <+: o'.printed)
      (within : o'.printed <+: o.content ++ data)
      (length_lt : o'.printed.length < (o.content ++ data).length) : Took o data (.error e, o')

namespace Took

theorem refl (h : o.Bounded) : Took o [] (.ok (), o) :=
  .all (List.prefix_refl _) (List.append_nil _).symm h

theorem bounded (h : Took o data (.ok (), o')) : o'.Bounded := by
  cases h with
  | all _ _ hb => exact hb

/-- After some bytes the next ones. -/
theorem trans {r : Except IoFault Unit × Output} (h : Took o a (.ok (), o')) (k : Took o' b r) :
    Took o (a ++ b) r := by
  cases h with
  | all hg hc _ =>
    cases k with
    | all hg' hc' hb' => exact .all (hg.trans hg') (by rw [hc', hc, List.append_assoc]) hb'
    | part hg' hw hlt =>
      rw [hc, List.append_assoc] at hw hlt
      exact .part (hg.trans hg') hw hlt

/-- Bytes that were never tried come too late as well. -/
theorem error_append (h : Took o a (.error e, o')) (b : Bytes) :
    Took o (a ++ b) (.error e, o') := by
  cases h with
  | part hg hw hlt =>
    refine .part hg ?_ ?_
    · rw [← List.append_assoc]
      exact hw.trans (List.prefix_append _ _)
    · rw [← List.append_assoc, List.length_append]
      omega

end Took

/-! ## 2. Each way of writing -/

/-- What the sink takes of some bytes, in front of which nothing waits. -/
theorem took_pass (h : o.waiting = []) : Took o data (o.pass data) := by
  unfold pass Sink.write
  cases hroom : o.sink.room with
  | none =>
    refine .all (List.prefix_append _ _) ?_ (by simp [Bounded, h])
    simp [content, printed, h]
  | some n =>
    simp only
    split
    · rename_i hle
      refine .all (List.prefix_append _ _) ?_ (by simp [Bounded, h])
      simp [content, printed, h, List.take_of_length_le hle]
    · rename_i hle
      refine .part (List.prefix_append _ _) ?_ ?_
      · simpa [content, printed, h] using List.take_prefix n data
      · simp [content, printed, h]
        omega

/-- What the sink takes of the bytes that wait. -/
theorem took_flush (o : Output) : Took o [] o.flush := by
  unfold flush Sink.write
  cases hroom : o.sink.room with
  | none =>
    exact .all (List.prefix_append _ _) (by simp [content, printed]) (Nat.zero_le _)
  | some n =>
    by_cases hle : o.waiting.length ≤ n
    · simp only [if_pos hle, List.take_of_length_le hle]
      exact .all (List.prefix_append _ _) (by simp [content, printed]) (Nat.zero_le _)
    · simp only [if_neg hle]
      refine .part (List.prefix_append _ _) ?_ ?_
      · simpa [content, printed] using List.take_prefix n o.waiting
      · simp [content, printed]
        omega

theorem waiting_flush (h : o.flush = (.ok (), o')) : o'.waiting = [] := by
  unfold flush at h
  simp only at h
  split at h
  · cases h
    rfl
  · cases h

/-- Bytes that there is room for wait, if they would not fill the capacity alone. -/
theorem took_of_room (h : o.Bounded)
    (hroom : data.length ≤ o.capacity - o.waiting.length ∨ o.waiting = []) :
    Took o data (if o.capacity ≤ data.length then o.pass data
      else (.ok (), { o with waiting := o.waiting ++ data })) := by
  unfold Bounded at h
  split
  · refine took_pass ?_
    rcases hroom with hroom | hroom
    · exact List.length_eq_zero_iff.mp (by omega)
    · exact hroom
  · refine .all (List.prefix_refl _) (by simp [content, printed]) ?_
    unfold Bounded
    simp only [List.length_append]
    rcases hroom with hroom | hroom
    · omega
    · simp only [hroom, List.length_nil]
      omega

theorem took_hold (h : o.Bounded) (data : Bytes) : Took o data (o.hold data) := by
  unfold hold
  simp only
  -- what waits makes room if it must
  have hmade : Took o [] (if o.capacity - o.waiting.length < data.length then o.flush
      else (.ok (), o)) := by
    split
    · exact took_flush o
    · exact .refl h
  have hroom : ∀ o', (if o.capacity - o.waiting.length < data.length then o.flush
      else (.ok (), o)) = (.ok (), o') →
      data.length ≤ o'.capacity - o'.waiting.length ∨ o'.waiting = [] := by
    intro o' heq
    split at heq
    · exact .inr (waiting_flush heq)
    · rename_i hfits
      cases heq
      exact .inl (Nat.not_lt.mp hfits)
  generalize (if o.capacity - o.waiting.length < data.length then o.flush
    else (Except.ok (), o)) = made at hmade hroom ⊢
  obtain ⟨e | u, o'⟩ := made
  · exact hmade.error_append data
  · exact hmade.trans (took_of_room hmade.bounded (hroom o' rfl))

theorem took_writeLines (h : o.Bounded) (lines : Bytes) : Took o lines (o.writeLines lines) := by
  unfold writeLines
  split
  · rename_i hw
    exact took_pass (List.isEmpty_iff.mp hw)
  · have hhold := took_hold h lines
    split
    · rename_i heq
      rwa [heq] at hhold
    · rename_i heq
      rw [heq] at hhold
      simpa using hhold.trans (took_flush _)

theorem splitLines_append (data : Bytes) : (splitLines data).1 ++ (splitLines data).2 = data := by
  unfold splitLines
  simp only
  have hsuffix : (data.reverse.takeWhile (· ≠ 0x0A)).reverse <:+ data := by
    rw [← List.reverse_prefix, List.reverse_reverse]
    exact List.takeWhile_prefix _
  obtain ⟨front, hfront⟩ := hsuffix
  generalize (data.reverse.takeWhile (· ≠ 0x0A)).reverse = tail at *
  subst hfront
  simp

theorem took_write (h : o.Bounded) (data : Bytes) : Took o data (o.write data) := by
  unfold write
  split
  · rename_i hcap
    unfold Bounded at h
    exact took_pass (List.length_eq_zero_iff.mp (by omega))
  have hsplit := splitLines_append data
  generalize splitLines data = pieces at *
  obtain ⟨lines, tail⟩ := pieces
  subst hsplit
  -- the whole lines first, or a line that waits with its line feed
  have hlines : Took o lines (if lines.isEmpty then
      if o.waiting.getLast? = some 0x0A then o.flush else (.ok (), o) else o.writeLines lines) := by
    split
    · rename_i hnil
      rw [List.isEmpty_iff.mp hnil]
      split
      · exact took_flush o
      · exact .refl h
    · exact took_writeLines h lines
  simp only
  generalize (if lines.isEmpty then
    if o.waiting.getLast? = some 0x0A then o.flush else (Except.ok (), o)
    else o.writeLines lines) = first at hlines ⊢
  obtain ⟨e | u, o'⟩ := first
  · exact hlines.error_append tail
  · exact hlines.trans (took_hold hlines.bounded tail)

/-- **What an output takes of several pieces.** -/
theorem took_writeAll (h : o.Bounded) (pieces : List Bytes) :
    Took o pieces.flatten (o.writeAll pieces) := by
  induction pieces generalizing o with
  | nil => exact .refl h
  | cons data rest ih =>
    have hwrite := took_write h data
    unfold writeAll
    rw [List.flatten_cons]
    split
    · rename_i heq
      rw [heq] at hwrite
      exact hwrite.error_append _
    · rename_i heq
      rw [heq] at hwrite
      exact hwrite.trans (ih hwrite.bounded)

/-! ## 3. The output without a limit -/

/-- An output without a limit, in front of which nothing waits, takes every piece at once. -/
theorem writeAll_of_no_limit (received : Bytes) (fault : IoFault) (pieces : List Bytes) :
    writeAll ⟨⟨received, none, fault⟩, 0, []⟩ pieces =
      (.ok (), ⟨⟨received ++ pieces.flatten, none, fault⟩, 0, []⟩) := by
  induction pieces generalizing received with
  | nil => simp [writeAll]
  | cons data rest ih =>
    have hwrite : write ⟨⟨received, none, fault⟩, 0, []⟩ data =
        (.ok (), ⟨⟨received ++ data, none, fault⟩, 0, []⟩) := rfl
    unfold writeAll
    rw [hwrite]
    simp only
    rw [ih, List.flatten_cons, List.append_assoc]

theorem writeAll_unlimited (pieces : List Bytes) : unlimited.writeAll pieces =
    (.ok (), ⟨⟨pieces.flatten, none, .noSpace⟩, 0, []⟩) :=
  writeAll_of_no_limit [] .noSpace pieces

end DeviceKeys.Output
