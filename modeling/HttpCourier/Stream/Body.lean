import HttpCourier.Stream.Pieces
import HttpCourier.Stream.Source

/-!
# Reading the body of an answer

A `BodyStream` reads a wire in any sizes. `BodyStream.fill` takes pieces until enough bytes are
pending; a failure is classified, and what was pending stays. A closed stream gives nothing.
-/

namespace HttpCourier

/-- The body of an answer, being read. -/
structure BodyStream where
  pieces : Pieces
  pending : Bytes := []
  exhausted : Bool := false
  closed : Bool := false
  bytesRead : Nat := 0

namespace BodyStream

/-- The stream of a wire. -/
def ofWire (wire : Wire) (chunkSize : Nat) : BodyStream := { pieces := { wire, size := chunkSize } }

/-- Whether more bytes have to be pending before a read of a size is served. -/
def needsMore (s : BodyStream) (size : Int) : Bool :=
  !s.exhausted && (decide (size < 0) || decide ((s.pending.length : Int) < size))

/-- Takes pieces until enough bytes are pending. -/
def fill (size : Int) (s : BodyStream) : Option Failure × BodyStream :=
  if s.needsMore size then
    match _h : s.pieces.next with
    | (.ok (some piece), pieces) => fill size { s with pieces, pending := s.pending ++ piece }
    | (.ok none, pieces) => (none, { s with pieces, exhausted := true })
    | (.error failure, pieces) => (some failure, { s with pieces })
  else (none, s)
termination_by s.pieces.rank
decreasing_by exact Pieces.rank_next _h

/-- Gives pending bytes away. -/
def give (size : Int) (s : BodyStream) : Bytes × BodyStream :=
  let n := if size < 0 then s.pending.length else size.toNat
  let bytes := s.pending.take n
  (bytes, { s with pending := s.pending.drop n, bytesRead := s.bytesRead + bytes.length })

/-- Reads at most a number of bytes, or all that is left for a negative number. -/
def read (size : Int) (s : BodyStream) : Except Fault Bytes × BodyStream :=
  if s.closed then (.ok [], s)
  else
    match fill size s with
    | (some failure, s) => (.error (Fault.failure failure).classified, s)
    | (none, s) => let (bytes, s) := give size s; (.ok bytes, s)

/-- The stream with its wire closed, unless it was closed before. -/
def close (s : BodyStream) : BodyStream :=
  if s.closed then s
  else { s with closed := true, pieces := { s.pieces with wire := s.pieces.wire.close } }

/-- What is known about the wire of a stream. -/
def wire (s : BodyStream) : Wire := s.pieces.wire

end BodyStream

instance : ByteSource BodyStream where
  read := BodyStream.read
  close := BodyStream.close
  left s := s.pending.length + s.pieces.content.length

end HttpCourier
