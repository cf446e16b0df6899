import HttpCourier.Hash.Block

/-!
# SHA-1

FIPS 180-4, section 6.1.
-/

namespace HttpCourier.Hash.Sha1

/-- Rotation to the left. -/
def rotl (x : UInt32) (n : UInt32) : UInt32 := (x <<< n) ||| (x >>> (32 - n))

/-- The five working words. -/
structure State where
  (a b c d e : UInt32)

/-- The starting words. -/
def initial : State := ⟨0x67452301, 0xefcdab89, 0x98badcfe, 0x10325476, 0xc3d2e1f0⟩

/-- Adds `n` more words to a schedule held newest first. -/
def extend : Nat → List UInt32 → List UInt32
  | 0, ws => ws
  | n + 1, ws =>
    extend n (rotl (ws.getD 2 0 ^^^ ws.getD 7 0 ^^^ ws.getD 13 0 ^^^ ws.getD 15 0) 1 :: ws)

/-- The message schedule of a block. -/
def schedule (block : Bytes) : List UInt32 :=
  (extend 64 ((chunksOf 3 block).map fun w => UInt32.ofNat (bigEndian w)).reverse).reverse

/-- The mixing function and the constant of round `t`. -/
def mixing (t : Nat) (b c d : UInt32) : UInt32 × UInt32 :=
  if t < 20 then ((b &&& c) ||| (~~~b &&& d), 0x5a827999)
  else if t < 40 then (b ^^^ c ^^^ d, 0x6ed9eba1)
  else if t < 60 then ((b &&& c) ||| (b &&& d) ||| (c &&& d), 0x8f1bbcdc)
  else (b ^^^ c ^^^ d, 0xca62c1d6)

/-- One round, with its schedule word and number. -/
def round (s : State) (wt : UInt32 × Nat) : State :=
  let (f, k) := mixing wt.2 s.b s.c s.d
  ⟨rotl s.a 5 + f + s.e + k + wt.1, s.a, rotl s.b 30, s.c, s.d⟩

/-- Takes a block into the state. -/
def compress (s : State) (block : Bytes) : State :=
  let t := (schedule block).zipIdx.foldl round s
  ⟨s.a + t.a, s.b + t.b, s.c + t.c, s.d + t.d, s.e + t.e⟩

/-- The SHA-1 digest of a message: twenty bytes. -/
def hash (message : Bytes) : Bytes :=
  let s := (chunksOf 63 (padded 64 8 bigEndianBytes message)).foldl compress initial
  [s.a, s.b, s.c, s.d, s.e].flatMap fun w => bigEndianBytes 4 w.toNat

end HttpCourier.Hash.Sha1
