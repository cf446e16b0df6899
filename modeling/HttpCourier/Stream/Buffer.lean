import HttpCourier.Bytes.Basic

/-!
# Bounded buffers

A `BoundedBuffer` keeps the first bytes that are written to it, up to its capacity; the rest is
accepted and dropped.
-/

namespace HttpCourier

/-- The first bytes written, up to a capacity. -/
structure BoundedBuffer where
  capacity : Nat
  value : Bytes := []
  length_le : value.length ≤ capacity := by simp

namespace BoundedBuffer

/-- An empty buffer; a negative capacity counts as zero. -/
def ofCapacity (capacity : Int) : BoundedBuffer := { capacity := capacity.toNat }

/-- How many bytes fit in. -/
def remaining (b : BoundedBuffer) : Nat := b.capacity - b.value.length

/-- Whether nothing fits in. -/
def isFull (b : BoundedBuffer) : Bool := b.remaining == 0

/-- Keeps as much of the bytes as fits in. -/
def write (b : BoundedBuffer) (bytes : Bytes) : BoundedBuffer where
  capacity := b.capacity
  value := b.value ++ bytes.take b.remaining
  length_le := by
    have := b.length_le
    simp only [List.length_append, List.length_take, remaining]
    omega

@[simp] theorem write_capacity (b : BoundedBuffer) (bytes : Bytes) :
    (b.write bytes).capacity = b.capacity := rfl

/-- After bytes were written to a buffer that is not full, less fits in. -/
theorem remaining_write {b : BoundedBuffer} {bytes : Bytes} (hb : b.isFull = false)
    (h : bytes.isEmpty = false) : (b.write bytes).remaining < b.remaining := by
  have h₁ : b.remaining ≠ 0 := by simpa [isFull] using hb
  have h₂ : 0 < bytes.length := List.length_pos_iff.2 (by simpa using h)
  simp only [remaining, write, List.length_append, List.length_take] at h₁ ⊢
  omega

end BoundedBuffer

end HttpCourier
