import HttpCourier.Fault

/-!
# Sources of bytes

A `ByteSource` can be read and closed. `read n` gives at most `n` bytes, or all for a negative `n`;
no bytes mean that the source has ended. `left` bounds the bytes that are still to come.
-/

namespace HttpCourier

/-- States from which bytes can be read. -/
class ByteSource (σ : Type) where
  read : Int → σ → Except Fault Bytes × σ
  close : σ → σ
  left : σ → Nat

/-- Bytes in memory, read at most `limit` at a time, which fail after a number of reads. The sizes
that were asked for are kept. -/
structure MemorySource where
  data : Bytes
  limit : Option Nat := none
  failAfter : Option Nat := none
  reads : List Int := []
  closes : Nat := 0

namespace MemorySource

/-- How many bytes a read gives. -/
def amount (s : MemorySource) (size : Int) : Nat :=
  let asked := if size < 0 then s.data.length else size.toNat
  s.limit.elim asked (min asked)

/-- Reads from memory. -/
def read (size : Int) (s : MemorySource) : Except Fault Bytes × MemorySource :=
  if s.failAfter.any (· ≤ s.reads.length) then
    (.error (.transport .unknown "source failed"), s)
  else
    let n := s.amount size
    (.ok (s.data.take n), { s with data := s.data.drop n, reads := s.reads ++ [size] })

end MemorySource

instance : ByteSource MemorySource where
  read := MemorySource.read
  close s := { s with closes := s.closes + 1 }
  left s := s.data.length

end HttpCourier
