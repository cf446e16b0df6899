import HttpCourier.Stream.Wire

/-!
# Pieces of one size

The chunks of a wire have any size; `Pieces.next` hands out their bytes in pieces of one size, the
last one apart, and pulls a chunk only when no piece is ready. After a failure what was left over is
lost, and there are no more pieces.
-/

namespace HttpCourier

/-- The bytes of a wire in pieces of one size. -/
structure Pieces where
  wire : Wire
  size : Nat
  /-- The pieces that are ready. -/
  ready : List Bytes := []
  /-- The bytes that do not fill a piece yet. -/
  carry : Bytes := []
  ended : Bool := false

namespace Pieces

/-- The full pieces of a byte string, and the rest. -/
def cut (size : Nat) (bytes : Bytes) : List Bytes × Bytes :=
  let full := bytes.length / size * size
  (Bytes.chunks size (bytes.take full), bytes.drop full)

/-- A bound on the pieces that are still to come. -/
def rank (p : Pieces) : Nat :=
  p.ready.length + 2 * (p.carry.length + p.wire.content.length) + p.wire.parts.length
    + if p.ended then 0 else 1

/-- Cut bytes are the pieces and what is carried over. -/
theorem cut_append (size : Nat) (bytes : Bytes) :
    (cut size bytes).1.flatten ++ (cut size bytes).2 = bytes := by
  simp [cut, Bytes.flatten_chunks]

/-- Every piece takes at least a byte, so there are no more pieces and bytes carried over than there
were bytes. -/
theorem cut_length (size : Nat) (bytes : Bytes) :
    (cut size bytes).1.length + (cut size bytes).2.length ≤ bytes.length := by
  have := Bytes.length_chunks_le size (bytes.take (bytes.length / size * size))
  simp only [cut, List.length_take, List.length_drop] at this ⊢
  have h : bytes.length / size * size ≤ bytes.length := Nat.div_mul_le_self _ _
  omega

/-- The pieces after a chunk arrived. -/
def add (p : Pieces) (bytes : Bytes) (wire : Wire) : Pieces :=
  let (ready, carry) := cut p.size (p.carry ++ bytes)
  { p with wire, ready, carry }

/-- A chunk in hand is less to do than a chunk on the wire. -/
theorem rank_add {p : Pieces} {bytes : Bytes} {wire : Wire} (hp : p.ready = [])
    (h : p.wire.pull = (.chunk bytes, wire)) : (p.add bytes wire).rank < p.rank := by
  obtain ⟨h₁, h₂⟩ := Wire.pull_chunk h
  have := cut_length p.size (p.carry ++ bytes)
  simp only [List.length_append] at this
  have ho : (p.add bytes wire).ended = p.ended := rfl
  simp only [rank, ho]
  simp only [add, hp, h₁, List.length_append, List.length_nil]
  omega

/-- Takes the next piece, or finds that there is none. -/
def next (p : Pieces) : Except Failure (Option Bytes) × Pieces :=
  match _hr : p.ready with
  | piece :: rest => (.ok (some piece), { p with ready := rest })
  | [] =>
    if p.ended then (.ok none, p)
    else
      match _h : p.wire.pull with
      | (.chunk bytes, wire) => next (p.add bytes wire)
      | (.finish, wire) =>
        (.ok (if p.carry.isEmpty then none else some p.carry),
          { p with wire, carry := [], ended := true })
      | (.fail failure, wire) => (.error failure, { p with wire, carry := [], ended := true })
termination_by p.rank
decreasing_by exact rank_add _hr _h

/-- The bytes that are still to come. -/
def content (p : Pieces) : Bytes :=
  p.ready.flatten ++ p.carry ++ if p.ended then [] else p.wire.content

/-- After a piece there are fewer to come. -/
theorem rank_next {p p' : Pieces} {piece : Bytes} (h : p.next = (.ok (some piece), p')) :
    p'.rank < p.rank := by
  fun_induction next p with
  | case1 p piece rest hr =>
    obtain ⟨rfl, rfl⟩ := by simpa using h
    simp only [rank, hr, List.length_cons]
    omega
  | case2 p hr ho => simp at h
  | case3 p hr ho bytes wire hp ih => exact Nat.lt_trans (ih h) (rank_add hr hp)
  | case4 p hr ho wire hp =>
    obtain ⟨h₁, h₂, h₃⟩ := Wire.pull_finish hp
    obtain ⟨-, rfl⟩ := by simpa using h
    have ho : p.ended = false := by simpa using ho
    simp only [rank, hr, h₁, h₂, ho, List.length_nil, if_true]
    simp
    omega
  | case5 p hr ho failure wire hp => simp at h

end Pieces

end HttpCourier
