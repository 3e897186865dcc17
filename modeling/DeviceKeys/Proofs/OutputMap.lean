import Mathlib.Data.List.TakeWhile
import DeviceKeys.Output

/-! # Outputs look at line feeds only

An output treats all bytes alike but for the line feed. So a function on bytes that keeps line feeds
apart from the others can be applied before or after writing (`write_map`, `writeAll_map`), and how
many bytes an output takes does not depend on which they are.
-/

namespace DeviceKeys

/-- The same sink with other bytes. -/
def Sink.map (f : UInt8 → UInt8) (s : Sink) : Sink := { s with received := s.received.map f }

namespace Output

/-- The same output with other bytes. -/
def map (f : UInt8 → UInt8) (o : Output) : Output :=
  { o with sink := o.sink.map f, waiting := o.waiting.map f }

/-- What a call gives, with other bytes. -/
def mapResult (f : UInt8 → UInt8) (r : Except IoFault Unit × Output) :
    Except IoFault Unit × Output := (r.1, r.2.map f)

variable {f : UInt8 → UInt8} {o : Output}

theorem sink_write_map (s : Sink) (data : Bytes) :
    (s.map f).write (data.map f) = ((s.write data).1, (s.write data).2.map f) := by
  obtain ⟨received, room, fault⟩ := s
  cases room <;> simp [Sink.write, Sink.map, List.map_take]

theorem flush_map (f : UInt8 → UInt8) (o : Output) : (o.map f).flush = mapResult f o.flush := by
  unfold flush map
  simp only [sink_write_map]
  cases (o.sink.write o.waiting).1 <;> simp [mapResult, map, Sink.map, List.map_drop]

theorem pass_map (f : UInt8 → UInt8) (o : Output) (data : Bytes) :
    (o.map f).pass (data.map f) = mapResult f (o.pass data) := by
  unfold pass map
  simp only [sink_write_map]
  rfl

theorem hold_map (f : UInt8 → UInt8) (o : Output) (data : Bytes) :
    (o.map f).hold (data.map f) = mapResult f (o.hold data) := by
  unfold hold
  simp only
  have hmade : (if (o.map f).capacity - (o.map f).waiting.length < (data.map f).length
      then (o.map f).flush else (.ok (), o.map f)) = mapResult f
        (if o.capacity - o.waiting.length < data.length then o.flush else (.ok (), o)) := by
    rw [flush_map]
    simp only [map, List.length_map]
    split <;> rfl
  rw [hmade]
  generalize (if o.capacity - o.waiting.length < data.length then o.flush
    else (Except.ok (), o)) = made
  obtain ⟨e | u, o'⟩ := made
  · rfl
  · simp only [mapResult, pass_map, List.length_map]
    change (if o'.capacity ≤ data.length then _ else _) = _
    split
    · rfl
    · simp [map]

theorem writeLines_map (o : Output) (lines : Bytes) :
    (o.map f).writeLines (lines.map f) = mapResult f (o.writeLines lines) := by
  unfold writeLines
  rw [pass_map, hold_map]
  have hempty : (o.map f).waiting.isEmpty = o.waiting.isEmpty := by simp [map]
  rw [hempty]
  split
  · rfl
  · rcases o.hold lines with ⟨e | u, o'⟩
    · rfl
    · exact flush_map f o'

section LineFeeds

variable (hf : ∀ b, f b = 0x0A ↔ b = 0x0A)
include hf

theorem splitLines_map (data : Bytes) :
    splitLines (data.map f) = ((splitLines data).1.map f, (splitLines data).2.map f) := by
  have htail : ∀ bs : Bytes, (bs.map f).takeWhile (· ≠ 0x0A) =
      (bs.takeWhile (· ≠ 0x0A)).map f := by
    intro bs
    rw [List.takeWhile_map]
    congr 1
    refine congrArg (List.takeWhile · bs) (funext fun b => ?_)
    simp [hf]
  unfold splitLines
  simp only [← List.map_reverse, htail, List.length_map, List.length_reverse, List.map_take]

/-- **Bytes that are changed before they are written** change in the output, and nothing else
    does. -/
theorem write_map (o : Output) (data : Bytes) :
    (o.map f).write (data.map f) = mapResult f (o.write data) := by
  unfold write
  rw [pass_map, splitLines_map hf]
  have hcap : (o.map f).capacity = o.capacity := rfl
  rw [hcap]
  split
  · rfl
  generalize splitLines data = pieces
  obtain ⟨lines, tail⟩ := pieces
  simp only
  have hlast : (o.map f).waiting.getLast? = some 0x0A ↔ o.waiting.getLast? = some 0x0A := by
    simp [map, hf]
  have hfirst : (if (lines.map f).isEmpty then
      if (o.map f).waiting.getLast? = some 0x0A then (o.map f).flush else (.ok (), o.map f)
      else (o.map f).writeLines (lines.map f)) = mapResult f (if lines.isEmpty then
        if o.waiting.getLast? = some 0x0A then o.flush else (.ok (), o)
        else o.writeLines lines) := by
    rw [flush_map, writeLines_map]
    simp only [List.isEmpty_map, hlast]
    split
    · split <;> rfl
    · rfl
  rw [hfirst]
  generalize (if lines.isEmpty then
    if o.waiting.getLast? = some 0x0A then o.flush else (Except.ok (), o)
    else o.writeLines lines) = first
  obtain ⟨e | u, o'⟩ := first
  · rfl
  · exact hold_map f o' tail

theorem writeAll_map (pieces : List Bytes) (o : Output) :
    (o.map f).writeAll (pieces.map (List.map f)) = mapResult f (o.writeAll pieces) := by
  induction pieces generalizing o with
  | nil => rfl
  | cons data rest ih =>
    unfold writeAll
    rw [List.map_cons]
    simp only [write_map hf]
    rcases o.write data with ⟨e | u, o'⟩
    · rfl
    · exact ih o'

/-- So pieces that differ in other bytes only have the same result. -/
theorem writeAll_congr {pieces pieces' : List Bytes}
    (h : pieces'.map (List.map f) = pieces.map (List.map f)) (o : Output) :
    (o.writeAll pieces').1 = (o.writeAll pieces).1 := by
  have hmap := writeAll_map hf pieces o
  have hmap' := writeAll_map hf pieces' o
  rw [h, hmap] at hmap'
  exact (congrArg Prod.fst hmap').symm

end LineFeeds

end Output

end DeviceKeys
