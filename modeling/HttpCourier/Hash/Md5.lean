import HttpCourier.Hash.Block

/-!
# MD5

RFC 1321 on 32-bit words, least significant byte first.
-/

namespace HttpCourier.Hash.Md5

/-- Rotation to the left. -/
def rotl (x : UInt32) (n : UInt32) : UInt32 := (x <<< n) ||| (x >>> (32 - n))

/-- The four working words. -/
structure State where
  (a b c d : UInt32)

/-- The starting words. -/
def initial : State := ⟨0x67452301, 0xefcdab89, 0x98badcfe, 0x10325476⟩

/-- The constants of the sixty-four steps, from the sine. -/
def stepConstants : List UInt32 :=
  [0xd76aa478, 0xe8c7b756, 0x242070db, 0xc1bdceee, 0xf57c0faf, 0x4787c62a, 0xa8304613,
    0xfd469501, 0x698098d8, 0x8b44f7af, 0xffff5bb1, 0x895cd7be, 0x6b901122, 0xfd987193,
    0xa679438e, 0x49b40821, 0xf61e2562, 0xc040b340, 0x265e5a51, 0xe9b6c7aa, 0xd62f105d,
    0x02441453, 0xd8a1e681, 0xe7d3fbc8, 0x21e1cde6, 0xc33707d6, 0xf4d50d87, 0x455a14ed,
    0xa9e3e905, 0xfcefa3f8, 0x676f02d9, 0x8d2a4c8a, 0xfffa3942, 0x8771f681, 0x6d9d6122,
    0xfde5380c, 0xa4beea44, 0x4bdecfa9, 0xf6bb4b60, 0xbebfbc70, 0x289b7ec6, 0xeaa127fa,
    0xd4ef3085, 0x04881d05, 0xd9d4d039, 0xe6db99e5, 0x1fa27cf8, 0xc4ac5665, 0xf4292244,
    0x432aff97, 0xab9423a7, 0xfc93a039, 0x655b59c3, 0x8f0ccc92, 0xffeff47d, 0x85845dd1,
    0x6fa87e4f, 0xfe2ce6e0, 0xa3014314, 0x4e0811a1, 0xf7537e82, 0xbd3af235, 0x2ad7d2bb,
    0xeb86d391]

/-- The rotation of step `i`. -/
def rotation (i : Nat) : UInt32 :=
  let row : List UInt32 := match i / 16 with
    | 0 => [7, 12, 17, 22]
    | 1 => [5, 9, 14, 20]
    | 2 => [4, 11, 16, 23]
    | _ => [6, 10, 15, 21]
  row.getD (i % 4) 0

/-- The mixing function of step `i` and the number of the message word it takes. -/
def mixing (i : Nat) (b c d : UInt32) : UInt32 × Nat :=
  match i / 16 with
  | 0 => ((b &&& c) ||| (~~~b &&& d), i)
  | 1 => ((d &&& b) ||| (~~~d &&& c), (5 * i + 1) % 16)
  | 2 => (b ^^^ c ^^^ d, (3 * i + 5) % 16)
  | _ => (c ^^^ (b ||| ~~~d), 7 * i % 16)

/-- One step, with its constant and number. -/
def step (words : List UInt32) (s : State) (ki : UInt32 × Nat) : State :=
  let (f, g) := mixing ki.2 s.b s.c s.d
  ⟨s.d, s.b + rotl (f + s.a + ki.1 + words.getD g 0) (rotation ki.2), s.b, s.c⟩

/-- Takes a block into the state. -/
def compress (s : State) (block : Bytes) : State :=
  let words := (chunksOf 3 block).map fun w => UInt32.ofNat (littleEndian w)
  let t := stepConstants.zipIdx.foldl (step words) s
  ⟨s.a + t.a, s.b + t.b, s.c + t.c, s.d + t.d⟩

/-- The MD5 digest of a message: sixteen bytes. -/
def hash (message : Bytes) : Bytes :=
  let s := (chunksOf 63 (padded 64 8 littleEndianBytes message)).foldl compress initial
  [s.a, s.b, s.c, s.d].flatMap fun w => littleEndianBytes 4 w.toNat

end HttpCourier.Hash.Md5
