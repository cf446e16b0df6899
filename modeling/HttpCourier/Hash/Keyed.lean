import HttpCourier.Hash.Block

/-!
# Keyed hashes

`hmac` is RFC 2104 over any hash function of this folder, and `stretch` derives keys from passwords
with it (PBKDF2 of RFC 8018).
-/

namespace HttpCourier.Hash

/-- A hash function with the size of its blocks. -/
structure Digester where
  hash : Bytes → Bytes
  blockSize : Nat

/-- The bytes of two byte strings combined; the longer one is cut. -/
def xorBytes (a b : Bytes) : Bytes := List.zipWith (· ^^^ ·) a b

/-- A key as long as a block. -/
def blockKey (d : Digester) (key : Bytes) : Bytes :=
  let k := if key.length > d.blockSize then d.hash key else key
  k ++ List.replicate (d.blockSize - k.length) 0

/-- The hash of a message under a key. -/
def hmac (d : Digester) (key message : Bytes) : Bytes :=
  let k := blockKey d key
  d.hash (k.map (· ^^^ 0x5c) ++ d.hash (k.map (· ^^^ 0x36) ++ message))

/-- Adds `rounds` more links to a chain of keyed hashes and combines all of them. -/
def chain (d : Digester) (key : Bytes) : (rounds : Nat) → (link sum : Bytes) → Bytes
  | 0, _, sum => sum
  | n + 1, link, sum =>
    let next := hmac d key link
    chain d key n next (xorBytes sum next)

/-- One piece of a derived key. -/
def stretchedBlock (d : Digester) (password salt : Bytes) (rounds index : Nat) : Bytes :=
  let first := hmac d password (salt ++ bigEndianBytes 4 index)
  chain d password (rounds - 1) first first

/-- A key of a length from a password; `pieces` pieces are enough for it. -/
def stretch (d : Digester) (password salt : Bytes) (rounds length pieces : Nat) : Bytes :=
  ((List.range pieces).flatMap fun i => stretchedBlock d password salt rounds (i + 1)).take length

end HttpCourier.Hash
