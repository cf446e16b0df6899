import HttpCourier.Bytes.Basic

/-!
# Messages as blocks

The hash functions of this folder read a message in blocks. `padded` closes a message with a one
bit, zeros and its length; `blocks` cuts the result; `bigEndian` and `littleEndian` turn bytes into
a number and back.
-/

namespace HttpCourier.Hash

/-- The number whose bytes, most significant first, are given. -/
def bigEndian (bytes : Bytes) : Nat := bytes.foldl (fun n b => n * 256 + b.toNat) 0

/-- The number whose bytes, least significant first, are given. -/
def littleEndian (bytes : Bytes) : Nat := bytes.foldr (fun b n => n * 256 + b.toNat) 0

/-- The last `k` bytes of a number, least significant first. -/
def littleEndianBytes : Nat → Nat → Bytes
  | 0, _ => []
  | k + 1, n => UInt8.ofNat (n % 256) :: littleEndianBytes k (n / 256)

/-- The last `k` bytes of a number, most significant first. -/
def bigEndianBytes (k n : Nat) : Bytes := (littleEndianBytes k n).reverse

/-- A message followed by a one bit, as few zeros as complete a block, and its length in bits. -/
def padded (blockSize lengthSize : Nat) (lengthBytes : Nat → Nat → Bytes) (message : Bytes) : Bytes :=
  let used := message.length + 1 + lengthSize
  message ++ 0x80 :: List.replicate ((blockSize - used % blockSize) % blockSize) 0
    ++ lengthBytes lengthSize (8 * message.length)

/-- Cuts a list into pieces of `n + 1` elements; the last piece may be shorter. -/
def chunksOf {α : Type} (n : Nat) (xs : List α) : List (List α) :=
  match xs with
  | [] => []
  | x :: rest => (x :: rest.take n) :: chunksOf n (rest.drop n)
termination_by xs.length
decreasing_by simp only [List.length_cons, List.length_drop]; omega

end HttpCourier.Hash
