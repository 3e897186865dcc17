import Mathlib.Data.List.TakeWhile
import DeviceKeys.Proofs.Output

/-! # Standard output

The standard output of a process holds the last line back until it is flushed. It takes everything
(`Output.standard`), or it is led to a device without space and takes nothing (`Output.full`).

* `Sink.Keeps`: what every write to a sink keeps, every write to an output in front of it keeps.
* `standard_takes`: the first output takes any pieces, and has printed them once it is flushed.
* `full_prints_nothing`: the second one prints nothing, whatever it is given. It fails once there is
  anything to print: at once when a line has ended or the bytes fill its capacity (`full_write`),
  else when it is flushed (`flush_of_full`).
* `IsStandard`: what the two have in common.
-/

namespace DeviceKeys

variable {P : Sink → Prop} {Q : Except IoFault Unit → Prop}

/-! ## 1. What every write keeps -/

/-- Each write to a sink with the first property keeps it, and has a result with the second one. -/
structure Sink.Keeps (P : Sink → Prop) (Q : Except IoFault Unit → Prop) : Prop where
  ok : Q (.ok ())
  write : ∀ {s : Sink} (data : Bytes), P s → Q (s.write data).1 ∧ P (s.write data).2

namespace Output

variable {o o' : Output} {data : Bytes}

section Keeps

variable (h : Sink.Keeps P Q)
include h

theorem keeps_pass (ho : P o.sink) : Q (o.pass data).1 ∧ P (o.pass data).2.sink :=
  h.write data ho

theorem keeps_flush (ho : P o.sink) : Q o.flush.1 ∧ P o.flush.2.sink := by
  have hwrite := h.write o.waiting ho
  unfold flush
  simp only
  split
  · rename_i heq
    rwa [heq] at hwrite
  · rename_i heq
    rwa [heq] at hwrite

theorem keeps_hold (ho : P o.sink) (data : Bytes) : Q (o.hold data).1 ∧ P (o.hold data).2.sink := by
  unfold hold
  simp only
  have hmade : Q (if o.capacity - o.waiting.length < data.length then o.flush else (.ok (), o)).1 ∧
      P (if o.capacity - o.waiting.length < data.length then o.flush
        else (.ok (), o)).2.sink := by
    split
    · exact keeps_flush h ho
    · exact ⟨h.ok, ho⟩
  generalize (if o.capacity - o.waiting.length < data.length then o.flush
    else (Except.ok (), o)) = made at hmade ⊢
  obtain ⟨e | u, o'⟩ := made
  · exact hmade
  · simp only
    split
    · exact keeps_pass h hmade.2
    · exact ⟨h.ok, hmade.2⟩

theorem keeps_writeLines (ho : P o.sink) (lines : Bytes) :
    Q (o.writeLines lines).1 ∧ P (o.writeLines lines).2.sink := by
  unfold writeLines
  split
  · exact keeps_pass h ho
  · have hhold := keeps_hold h ho lines
    split
    · rename_i heq
      rwa [heq] at hhold
    · rename_i heq
      rw [heq] at hhold
      exact keeps_flush h hhold.2

theorem keeps_write (ho : P o.sink) (data : Bytes) :
    Q (o.write data).1 ∧ P (o.write data).2.sink := by
  unfold write
  split
  · exact keeps_pass h ho
  simp only
  have hlines : Q (if (splitLines data).1.isEmpty then
        if o.waiting.getLast? = some 0x0A then o.flush else (.ok (), o)
        else o.writeLines (splitLines data).1).1 ∧
      P (if (splitLines data).1.isEmpty then
        if o.waiting.getLast? = some 0x0A then o.flush else (.ok (), o)
        else o.writeLines (splitLines data).1).2.sink := by
    split
    · split
      · exact keeps_flush h ho
      · exact ⟨h.ok, ho⟩
    · exact keeps_writeLines h ho _
  generalize (if (splitLines data).1.isEmpty then
    if o.waiting.getLast? = some 0x0A then o.flush else (Except.ok (), o)
    else o.writeLines (splitLines data).1) = first at hlines ⊢
  obtain ⟨e | u, o'⟩ := first
  · exact hlines
  · exact keeps_hold h hlines.2 _

/-- **What every write to a sink keeps, the writing of any pieces keeps.** -/
theorem keeps_writeAll (ho : P o.sink) (pieces : List Bytes) :
    Q (o.writeAll pieces).1 ∧ P (o.writeAll pieces).2.sink := by
  induction pieces generalizing o with
  | nil => exact ⟨h.ok, ho⟩
  | cons data rest ih =>
    have hwrite := keeps_write h ho data
    unfold writeAll
    split
    · rename_i heq
      rwa [heq] at hwrite
    · rename_i heq
      rw [heq] at hwrite
      exact ih hwrite.2

end Keeps

theorem writeAll_singleton : o.writeAll [data] = o.write data := by
  unfold writeAll
  rcases o.write data with ⟨e | u, o'⟩ <;> rfl

/-- Whatever has been given to an output that was empty is printed once it is flushed. -/
theorem printed_of_flush {pieces : List Bytes} {o'' : Output} (ho : o.content = [])
    (hw : o.writeAll pieces = (.ok (), o')) (hf : o'.flush = (.ok (), o'')) :
    o''.printed = pieces.flatten ∧ o''.waiting = [] := by
  have hbounded : o.Bounded := by
    have hnil : o.waiting = [] := (List.append_eq_nil_iff.mp ho).2
    simp [Bounded, hnil]
  have htook := took_writeAll hbounded pieces
  rw [hw] at htook
  have hflush := took_flush o'
  rw [hf] at hflush
  have hwaiting := waiting_flush hf
  cases htook with
  | all _ hc _ =>
    cases hflush with
    | all _ hc' _ =>
      rw [content, hwaiting, hc, ho] at hc'
      exact ⟨by simpa using hc', hwaiting⟩

/-! ## 2. Standard output that takes everything -/

/-- A sink without a limit never fails. -/
theorem keeps_endless : Sink.Keeps (fun s => s.room = none) (fun r => r = .ok ()) where
  ok := rfl
  write := by
    intro s data hs
    unfold Sink.write
    rw [hs]
    exact ⟨rfl, rfl⟩

/-- **Standard output takes any pieces**, and has printed just them once it is flushed. -/
theorem standard_takes (pieces : List Bytes) : ∃ o' o'', standard.writeAll pieces = (.ok (), o') ∧
    o'.flush = (.ok (), o'') ∧ o''.printed = pieces.flatten ∧ o''.waiting = [] := by
  have hwrite := keeps_writeAll (o := standard) keeps_endless rfl pieces
  rcases hw : standard.writeAll pieces with ⟨r, o'⟩
  rw [hw] at hwrite
  obtain ⟨rfl, hroom⟩ := hwrite
  have hflush := keeps_flush keeps_endless hroom
  rcases hf : o'.flush with ⟨r, o''⟩
  rw [hf] at hflush
  obtain ⟨rfl, -⟩ := hflush
  exact ⟨o', o'', rfl, hf, printed_of_flush rfl hw hf⟩

/-! ## 3. Standard output that takes nothing -/

/-- A sink without space is never changed, and takes no bytes but none. -/
theorem write_sink_full (data : Bytes) : full.sink.write data =
    (if data = [] then .ok () else .error .noSpace, full.sink) := by
  unfold Sink.write full
  cases data <;> simp

theorem keeps_full : Sink.Keeps (fun s => s = full.sink) (fun _ => True) where
  ok := trivial
  write := by
    rintro s data rfl
    rw [write_sink_full]
    exact ⟨trivial, rfl⟩

theorem sink_of_full (pieces : List Bytes) : (full.writeAll pieces).2.sink = full.sink :=
  (keeps_writeAll keeps_full rfl pieces).2

/-- A flush in front of a sink without space succeeds only if nothing waits. -/
theorem flush_of_full (h : o.sink = full.sink) :
    o.flush = (if o.waiting = [] then .ok () else .error .noSpace, o) := by
  unfold flush
  rw [h, write_sink_full]
  obtain ⟨sink, capacity, waiting⟩ := o
  subst h
  cases waiting <;> simp

theorem printed_of_full (h : o.sink = full.sink) : o.printed = [] ∧ o.flush.2.printed = [] := by
  rw [flush_of_full h]
  exact ⟨congrArg Sink.received h, congrArg Sink.received h⟩

/-- **A full standard output prints nothing.** -/
theorem full_prints_nothing (pieces : List Bytes) : (full.writeAll pieces).2.printed = [] ∧
    (full.writeAll pieces).2.flush.2.printed = [] :=
  printed_of_full (sink_of_full pieces)

/-- A full standard output takes pieces and can be flushed only if there is nothing to print. -/
theorem full_takes_iff {pieces : List Bytes} : (∃ o' o'', full.writeAll pieces = (.ok (), o') ∧
    o'.flush = (.ok (), o'')) ↔ pieces.flatten = [] := by
  constructor
  · rintro ⟨o', o'', hw, hf⟩
    have hprinted := (printed_of_full (sink_of_full pieces)).2
    rw [hw, hf] at hprinted
    exact (printed_of_flush rfl hw hf).1.symm.trans hprinted
  · intro hnil
    have htook := took_writeAll (o := full) (by simp [Bounded, full]) pieces
    have hsink := sink_of_full pieces
    rcases hw : full.writeAll pieces with ⟨e | u, o'⟩
    · rw [hw, hnil] at htook
      cases htook with
      | part _ _ hlt => simp [content, printed, full] at hlt
    · rw [hw] at htook hsink
      cases htook with
      | all _ hc _ =>
        rw [hnil] at hc
        have hwaiting : o'.waiting = [] := (List.append_eq_nil_iff.mp hc).2
        exact ⟨o', o', rfl, by rw [flush_of_full hsink, if_pos hwaiting]⟩

/-- There is no whole line in bytes without a line feed. -/
theorem splitLines_eq_nil_iff (data : Bytes) : (splitLines data).1 = [] ↔ 0x0A ∉ data := by
  have happend := splitLines_append data
  constructor
  · intro hnil hmem
    rw [hnil, List.nil_append] at happend
    rw [← happend] at hmem
    have := List.mem_takeWhile_imp (List.mem_reverse.mp hmem)
    simp at this
  · intro hmem
    have htail : (splitLines data).2 = data := by
      unfold splitLines
      simp only
      rw [List.takeWhile_eq_self_iff.mpr, List.reverse_reverse]
      intro b hb
      have hne : b ≠ 0x0A := fun hlf => hmem (hlf ▸ List.mem_reverse.mp hb)
      simpa using hne
    rw [htail] at happend
    exact List.append_left_eq_self.mp happend

/-- An empty full output lets bytes wait that leave room. -/
theorem full_hold : full.hold data = if data.length < lineCapacity
    then (.ok (), { full with waiting := data }) else (.error .noSpace, full) := by
  have hflush : full.flush = (.ok (), full) := flush_of_full rfl
  have hcap : full.capacity = lineCapacity := rfl
  unfold hold
  rw [hflush, ite_self]
  simp only [hcap]
  by_cases hlen : data.length < lineCapacity
  · rw [if_pos hlen, if_neg (Nat.not_le.mpr hlen)]
    rfl
  · have hne : data ≠ [] := by
      rintro rfl
      exact hlen (by decide)
    rw [if_neg hlen, if_pos (Nat.not_lt.mp hlen), pass, write_sink_full, if_neg hne]

/-- **What a full standard output takes at first**: bytes that end no line and leave room. -/
theorem full_write : full.write data = if 0x0A ∉ data ∧ data.length < lineCapacity
    then (.ok (), { full with waiting := data }) else (.error .noSpace, full) := by
  have happend := splitLines_append data
  have hlf := splitLines_eq_nil_iff data
  unfold write
  rw [if_neg (by decide)]
  simp only
  cases hlines : (splitLines data).1 with
  | cons b lines =>
    have hmem : ¬ 0x0A ∉ data := fun h => by simp [hlf.mpr h] at hlines
    have hpass : full.writeLines (b :: lines) = (.error .noSpace, full) := by
      unfold writeLines
      rw [if_pos (by decide), pass, write_sink_full, if_neg (by simp)]
    rw [if_neg (by simp : ¬ (b :: lines).isEmpty = true), hpass, if_neg fun h => hmem h.1]
  | nil =>
    rw [hlines, List.nil_append] at happend
    have hwaiting : full.waiting.getLast? ≠ some 0x0A := by decide
    rw [if_pos (by rfl), if_neg hwaiting, happend]
    simp only [full_hold, hlf.mp hlines, not_false_eq_true, true_and]

/-! ## 4. Either of them -/

/-- The standard output of a process, which takes everything or nothing. -/
def IsStandard (o : Output) : Prop := o = standard ∨ o = full

theorem full_ne_standard : full ≠ standard := by decide

namespace IsStandard

variable {pieces : List Bytes} {o'' : Output} {e : IoFault} (h : o.IsStandard)
include h

/-- Once it has taken pieces and has been flushed, it has printed just them. -/
theorem printed_eq (hw : o.writeAll pieces = (.ok (), o')) (hf : o'.flush = (.ok (), o'')) :
    o''.printed = pieces.flatten ∧ o''.waiting = [] := by
  rcases h with rfl | rfl <;> exact printed_of_flush rfl hw hf

/-- If it fails it is full, and has printed nothing of what it was given. -/
theorem of_error (hw : o.writeAll pieces = (.error e, o')) :
    o = full ∧ pieces.flatten ≠ [] ∧ o'.printed = [] ∧ o'.flush.2.printed = [] := by
  rcases h with rfl | rfl
  · obtain ⟨o₁, -, hok, -⟩ := standard_takes pieces
    rw [hw] at hok
    cases hok
  · have hprinted := full_prints_nothing pieces
    rw [hw] at hprinted
    refine ⟨rfl, fun hnil => ?_, hprinted⟩
    obtain ⟨o₁, -, hok, -⟩ := full_takes_iff.mpr hnil
    rw [hw] at hok
    cases hok

/-- If it cannot be flushed it is full, and has printed nothing of what it was given. -/
theorem of_flush_error (hw : o.writeAll pieces = (.ok (), o')) (hf : o'.flush = (.error e, o'')) :
    o = full ∧ pieces.flatten ≠ [] ∧ o''.printed = [] ∧ o''.flush.2.printed = [] := by
  rcases h with rfl | rfl
  · obtain ⟨o₁, o₂, hok, hflush, -⟩ := standard_takes pieces
    cases hw.symm.trans hok
    rw [hf] at hflush
    cases hflush
  · have hsink := sink_of_full pieces
    rw [hw] at hsink
    have hsame : o'' = o' := by
      rw [flush_of_full hsink] at hf
      exact (congrArg Prod.snd hf).symm
    refine ⟨rfl, fun hnil => ?_, printed_of_full (hsame ▸ hsink)⟩
    obtain ⟨o₁, o₂, hok, hflush⟩ := full_takes_iff.mpr hnil
    cases hw.symm.trans hok
    rw [hf] at hflush
    cases hflush

/-- It refuses bytes at once if it is full and they end a line or fill what may wait. -/
theorem write_error_iff : (∃ e o', o.write data = (.error e, o')) ↔
    o = full ∧ (0x0A ∈ data ∨ lineCapacity ≤ data.length) := by
  rcases h with rfl | rfl
  · obtain ⟨o', -, hok, -⟩ := standard_takes [data]
    rw [writeAll_singleton] at hok
    simp [hok, full_ne_standard.symm]
  · rw [full_write]
    split
    · rename_i hfits
      simp [hfits.1, hfits.2]
    · rename_i hfits
      rw [Decidable.not_and_iff_not_or_not, Decidable.not_not, Nat.not_lt] at hfits
      simp [hfits]

end IsStandard

end Output

end DeviceKeys
