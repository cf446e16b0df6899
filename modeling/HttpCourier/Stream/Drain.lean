import HttpCourier.Stream.Tee

/-!
# Draining a source

`drain` delivers the bytes of a source to up to two consumers: one that gets all of them, and one
that gets the first ones up to a capacity. With both the source is read once, through a `Tee`; with
the second alone no more is read than it keeps. In every case the source is closed at the end.
-/

namespace HttpCourier

/-- What is wanted from a source. -/
structure Demand where
  /-- Whether all bytes are wanted. -/
  content : Bool
  /-- How many of the first bytes are wanted, if any. -/
  capacity : Option Int

/-- What became of a source: the first bytes or a fault, all bytes as far as they were read, and the
closed source. -/
structure Drained (σ : Type) where
  captured : Except Fault (Option Bytes)
  content : Bytes
  source : σ

namespace Drain

variable {σ : Type} [ByteSource σ]

/-- Copies a source; `fuel` bounds the reads. -/
def copy (chunkSize : Nat) : (fuel : Nat) → σ → Bytes → Option Fault × Bytes × σ
  | 0, source, written => (none, written, source)
  | fuel + 1, source, written =>
    match ByteSource.read chunkSize source with
    | (.error fault, source) => (some fault, written, source)
    | (.ok [], source) => (none, written, source)
    | (.ok bytes, source) => copy chunkSize fuel source (written ++ bytes)

/-- Copies all of a source: every read but the last gives at least one byte. -/
def copyAll (chunkSize : Nat) (source : σ) : Option Fault × Bytes × σ :=
  copy chunkSize (ByteSource.left source + 1) source []

/-- Reads a source until a buffer is full. -/
def capture (chunkSize : Nat) (buffer : BoundedBuffer) (source : σ) :
    Except Fault BoundedBuffer × σ :=
  if _hf : buffer.isFull = false then
    match ByteSource.read (min buffer.remaining chunkSize) source with
    | (.error fault, source) => (.error fault, source)
    | (.ok bytes, source) =>
      if _hb : bytes.isEmpty = false then capture chunkSize (buffer.write bytes) source
      else (.ok buffer, source)
  else (.ok buffer, source)
termination_by buffer.remaining
decreasing_by exact BoundedBuffer.remaining_write _hf _hb

/-- A fault, or a result. -/
def orFault {α : Type} (fault : Option Fault) (result : α) : Except Fault α :=
  fault.elim (.ok result) .error

end Drain

variable {σ : Type} [ByteSource σ]

/-- Delivers the bytes of a source to those who want them, and closes it. -/
def drain (chunkSize : Nat) (demand : Demand) (source : σ) : Drained σ :=
  match demand.content, demand.capacity with
  | true, some capacity =>
    let tee : Tee σ := { source, sink := .ofCapacity capacity }
    let (fault, content, tee) := Drain.copyAll chunkSize tee
    { captured := Drain.orFault fault (some tee.sink.value), content, source := tee.close.source }
  | false, some capacity =>
    let (result, source) := Drain.capture chunkSize (.ofCapacity capacity) source
    { captured := result.map fun b => some b.value, content := [], source := ByteSource.close source }
  | true, none =>
    let (fault, content, source) := Drain.copyAll chunkSize source
    { captured := Drain.orFault fault none, content, source := ByteSource.close source }
  | false, none => { captured := .ok none, content := [], source := ByteSource.close source }

end HttpCourier
