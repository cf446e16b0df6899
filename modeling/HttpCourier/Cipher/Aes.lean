import HttpCourier.Bytes.Basic

/-!
# AES

FIPS 197 for keys of 16, 24 and 32 bytes, in the direction of decryption, and the chaining of blocks
(CBC) with its padding. A block is sixteen bytes, column by column.
-/

namespace HttpCourier.Aes

/-- Multiplication by `x` in the field of 256 elements. -/
def double (b : UInt8) : UInt8 := (b <<< 1) ^^^ (if b &&& 0x80 = 0 then 0 else 0x1b)

/-- Multiplication in the field; `bits` is the number of bits of the first factor that count. -/
def multiply : (bits : Nat) → UInt8 → UInt8 → UInt8
  | 0, _, _ => 0
  | n + 1, a, b => (if a &&& 1 = 0 then 0 else b) ^^^ multiply n (a >>> 1) (double b)

/-- The product of two elements. -/
def times (a b : UInt8) : UInt8 := multiply 8 a b

/-- The power of an element. -/
def power (b : UInt8) : Nat → UInt8
  | 0 => 1
  | n + 1 => times b (power b n)

/-- Rotation to the left. -/
def rotate (b n : UInt8) : UInt8 := (b <<< n) ||| (b >>> (8 - n))

/-- The substitution of a byte: its inverse, mixed. -/
def substitute (b : UInt8) : UInt8 :=
  let i := power b 254
  i ^^^ rotate i 1 ^^^ rotate i 2 ^^^ rotate i 3 ^^^ rotate i 4 ^^^ 0x63

/-- The substitutes of all bytes. -/
def substitutes : Array UInt8 := (Array.range 256).map fun n => substitute (UInt8.ofNat n)

/-- The bytes by their substitutes. -/
def originals : Array UInt8 :=
  (List.range 256).foldl (fun a n => a.setIfInBounds (substitutes.getD n 0).toNat (UInt8.ofNat n))
    (Array.replicate 256 0)

/-- The word after a word of the key schedule, mixed where a new key begins. -/
def mixWord (size i : Nat) (word : Bytes) : Bytes :=
  let sub (w : Bytes) : Bytes := w.map fun b => substitutes.getD b.toNat 0
  if i % size = 0 then
    match sub (word.drop 1 ++ word.take 1) with
    | b :: rest => (b ^^^ power 2 (i / size - 1)) :: rest
    | [] => []
  else if size > 6 ∧ i % size = 4 then sub word
  else word

/-- Adds `n` words to a key schedule held newest first; `size` is the number of words of the key. -/
def extend (size : Nat) : Nat → List Bytes → List Bytes
  | 0, ws => ws
  | n + 1, ws =>
    let mixed := mixWord size ws.length (ws.headD [])
    extend size n (List.zipWith (· ^^^ ·) (ws.getD (size - 1) []) mixed :: ws)

/-- The keys of the rounds, the last one first. -/
def roundKeys (key : Bytes) : List Bytes :=
  let size := key.length / 4
  let words := extend size (4 * (size + 7) - size) (Bytes.chunks 4 key).reverse
  let rec group : List Bytes → List Bytes
    | d :: c :: b :: a :: rest => (a ++ b ++ c ++ d) :: group rest
    | _ => []
  group words

/-- Undoes the shift of the rows and the substitution. -/
def unshift (block : Bytes) : Bytes :=
  (List.range 16).map fun i => originals.getD (block.getD ((13 * i) % 16) 0).toNat 0

/-- Undoes the mixing of a column. -/
def unmixColumn (column : Bytes) : Bytes :=
  [[14, 11, 13, 9], [9, 14, 11, 13], [13, 9, 14, 11], [11, 13, 9, 14]].map fun row =>
    (List.zipWith times row column).foldl (· ^^^ ·) 0

/-- Undoes the mixing of the columns. -/
def unmix (block : Bytes) : Bytes := (Bytes.chunks 4 block).flatMap unmixColumn

/-- Undoes the rounds whose keys are given. -/
def unround : List Bytes → Bytes → Bytes
  | [], block => block
  | [key], block => List.zipWith (· ^^^ ·) (unshift block) key
  | key :: rest, block => unround rest (unmix (List.zipWith (· ^^^ ·) (unshift block) key))

/-- Decrypts a block. -/
def decryptBlock (keys : List Bytes) (block : Bytes) : Bytes :=
  match keys with
  | [] => block
  | key :: rest => unround rest (List.zipWith (· ^^^ ·) block key)

/-- Decrypts chained blocks. -/
def decryptChain (keys : List Bytes) : (previous : Bytes) → List Bytes → Bytes
  | _, [] => []
  | previous, block :: rest =>
    List.zipWith (· ^^^ ·) (decryptBlock keys block) previous ++ decryptChain keys block rest

/-- A text without the padding that says its own length. -/
def unpadded? (text : Bytes) : Option Bytes :=
  match text.getLast? with
  | none => none
  | some last =>
    let n := last.toNat
    if n = 0 ∨ n > 16 ∨ n > text.length then none
    else if (text.drop (text.length - n)).all (· == last) then some (text.take (text.length - n))
    else none

/-- Decrypts a padded text. -/
def decrypt? (key start secret : Bytes) : Option Bytes :=
  if secret.length % 16 ≠ 0 ∨ start.length ≠ 16 then none
  else unpadded? (decryptChain (roundKeys key) start (Bytes.chunks 16 secret))

end HttpCourier.Aes
