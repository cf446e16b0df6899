/-!
# Byte strings

A byte string is a list of octets. This module has the conversions every other part uses: the hex
text of bytes, one character per byte (`ofLatin1`, `latin1`), and the UTF-8 bytes of a text.
-/

namespace HttpCourier

/-- A byte string. -/
abbrev Bytes := List UInt8

namespace Bytes

/-- The lower-case hexadecimal digit of a number below sixteen. -/
def hexDigit (n : Nat) : Char :=
  if n < 10 then Char.ofNat (48 + n) else Char.ofNat (87 + n)

/-- The number that a hexadecimal digit stands for, in either case. -/
def hexValue? (c : Char) : Option Nat :=
  if '0' ≤ c ∧ c ≤ '9' then some (c.toNat - 48)
  else if 'a' ≤ c ∧ c ≤ 'f' then some (c.toNat - 87)
  else if 'A' ≤ c ∧ c ≤ 'F' then some (c.toNat - 55)
  else none

/-- The bytes that pairs of hexadecimal digits write. -/
def ofHex? : List Char → Option Bytes
  | [] => some []
  | a :: b :: rest => do
    return UInt8.ofNat (16 * (← hexValue? a) + (← hexValue? b)) :: (← ofHex? rest)
  | [_] => none

/-- Two hexadecimal digits per byte. -/
def toHex (bytes : Bytes) : String :=
  String.ofList (bytes.flatMap fun b => [hexDigit (b.toNat / 16), hexDigit (b.toNat % 16)])

/-- The UTF-8 encoding of characters. -/
def ofChars (chars : List Char) : Bytes := chars.flatMap String.utf8EncodeChar

/-- The UTF-8 encoding of a text. -/
def ofString (s : String) : Bytes := ofChars s.toList

/-- One character per byte: byte `n` is the character with code point `n`. -/
def latin1 (bytes : Bytes) : List Char := bytes.map fun b => Char.ofNat b.toNat

/-- The bytes of a text all of whose characters are below U+0080, and `none` otherwise. -/
def ofAscii? (chars : List Char) : Option Bytes :=
  if chars.all fun c => decide (c.toNat < 128) then
    some (chars.map fun c => UInt8.ofNat c.toNat)
  else none

/-- Whether all bytes are below 128. -/
def isAscii (bytes : Bytes) : Bool := bytes.all fun b => decide (b.toNat < 128)

/-- The small form of an ASCII letter; other bytes are left alone. -/
def lowerByte (b : UInt8) : UInt8 := if 65 ≤ b ∧ b ≤ 90 then b + 32 else b

/-- ASCII letters in small form; other bytes are left alone. -/
def toLower (bytes : Bytes) : Bytes := bytes.map lowerByte

/-- Cuts a byte string into pieces of a size; the last one may be shorter. A size of zero gives one
piece. -/
def chunks (size : Nat) (bytes : Bytes) : List Bytes :=
  if _h : bytes.length ≤ size ∨ size = 0 then (if bytes.isEmpty then [] else [bytes])
  else bytes.take size :: chunks size (bytes.drop size)
termination_by bytes.length
decreasing_by
  simp only [List.length_drop]
  omega

@[simp] theorem ofChars_nil : ofChars [] = [] := rfl

@[simp] theorem ofChars_cons (c : Char) (cs : List Char) :
    ofChars (c :: cs) = String.utf8EncodeChar c ++ ofChars cs := rfl

/-- The pieces are the whole. -/
theorem flatten_chunks (size : Nat) (bytes : Bytes) : (chunks size bytes).flatten = bytes := by
  fun_induction chunks size bytes with
  | case1 bytes _ he => simpa using (List.isEmpty_iff.1 he).symm
  | case2 bytes _ _ => simp
  | case3 bytes _ ih => simp [ih]

/-- No piece is empty. -/
theorem length_chunks_le (size : Nat) (bytes : Bytes) :
    (chunks size bytes).length ≤ bytes.length := by
  fun_induction chunks size bytes with
  | case1 bytes _ he => simp
  | case2 bytes _ he =>
    cases bytes with
    | nil => simp at he
    | cons _ _ => simp
  | case3 bytes h ih =>
    simp only [List.length_cons, List.length_drop] at ih ⊢
    omega

end Bytes

end HttpCourier
