import DeviceKeys.FileSystem.Fault
import DeviceKeys.Text.Utf8

/-! # Outputs

Where a printed value goes.

* A `Sink` takes bytes, for ever or up to a count of bytes in all; a write that does not fit takes
  what fits, and then fails.
* An `Output` collects what is written in front of its sink. With capacity zero every write goes to
  the sink at once; otherwise whole lines go to the sink and the rest waits for a line feed, for a
  flush, or for the buffer to fill.
-/

namespace DeviceKeys

/-- A taker of bytes: what it has received, how many bytes it still takes (none: any number), and
    how it fails then. -/
structure Sink where
  received : Bytes
  room : Option Nat
  fault : IoFault
  deriving DecidableEq

namespace Sink

/-- Hands over bytes. -/
def write (s : Sink) (data : Bytes) : Except IoFault Unit × Sink :=
  match s.room with
  | none => (.ok (), { s with received := s.received ++ data })
  | some n =>
    let s' := { s with received := s.received ++ data.take n, room := some (n - data.length) }
    (if data.length ≤ n then .ok () else .error s.fault, s')

end Sink

/-- A sink with the bytes that wait in front of it. -/
structure Output where
  sink : Sink
  capacity : Nat
  waiting : Bytes
  deriving DecidableEq

namespace Output

/-- The output that takes every byte at once. -/
def unlimited : Output := ⟨⟨[], none, .noSpace⟩, 0, []⟩

/-- The output that takes `n` bytes in all and then fails with a text. -/
def limited (n : Nat) (text : String) : Output := ⟨⟨[], some n, .other text⟩, 0, []⟩

/-- The bytes that wait before lines are handed on. -/
def lineCapacity : Nat := 1024

/-- The standard output of a process. -/
def standard : Output := ⟨⟨[], none, .noSpace⟩, lineCapacity, []⟩

/-- The standard output of a process that is led to a device without space. -/
def full : Output := ⟨⟨[], some 0, .noSpace⟩, lineCapacity, []⟩

/-- What has reached the sink. -/
def printed (o : Output) : Bytes := o.sink.received

/-- Hands what waits to the sink. What the sink refuses stays. -/
def flush (o : Output) : Except IoFault Unit × Output :=
  let (result, sink) := o.sink.write o.waiting
  match result with
  | .ok () => (.ok (), { o with sink := sink, waiting := [] })
  | .error e =>
    (.error e, { o with
      sink := sink
      waiting := o.waiting.drop (sink.received.length - o.sink.received.length) })

/-- Hands bytes to the sink past what waits. -/
def pass (o : Output) (data : Bytes) : Except IoFault Unit × Output :=
  let (result, sink) := o.sink.write data
  (result, { o with sink := sink })

/-- Lets bytes wait. They displace what waits if they do not fit beside it, and go on at once if
    they would not fit alone. -/
def hold (o : Output) (data : Bytes) : Except IoFault Unit × Output :=
  let (result, o) :=
    if o.capacity - o.waiting.length < data.length then o.flush else (.ok (), o)
  match result with
  | .error e => (.error e, o)
  | .ok () =>
    if o.capacity ≤ data.length then o.pass data
    else (.ok (), { o with waiting := o.waiting ++ data })

/-- The part of some bytes up to and with the last line feed, and the part after it. -/
def splitLines (data : Bytes) : Bytes × Bytes :=
  let tail := (data.reverse.takeWhile (· ≠ 0x0A)).reverse
  (data.take (data.length - tail.length), tail)

/-- Hands over whole lines, behind what waits. -/
def writeLines (o : Output) (lines : Bytes) : Except IoFault Unit × Output :=
  if o.waiting.isEmpty then o.pass lines
  else
    match o.hold lines with
    | (.error e, o) => (.error e, o)
    | (.ok (), o) => o.flush

/-- Writes bytes. -/
def write (o : Output) (data : Bytes) : Except IoFault Unit × Output :=
  if o.capacity = 0 then o.pass data
  else
    let (lines, tail) := splitLines data
    let (result, o) :=
      if lines.isEmpty then
        if o.waiting.getLast? = some 0x0A then o.flush else (.ok (), o)
      else o.writeLines lines
    match result with
    | .error e => (.error e, o)
    | .ok () => o.hold tail

/-- Writes several pieces, one after the other. -/
def writeAll (o : Output) : List Bytes → Except IoFault Unit × Output
  | [] => (.ok (), o)
  | data :: rest =>
    match o.write data with
    | (.error e, o) => (.error e, o)
    | (.ok (), o) => o.writeAll rest

end Output

end DeviceKeys
