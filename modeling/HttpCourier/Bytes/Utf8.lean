import HttpCourier.Bytes.Basic

/-!
# Reading UTF-8

`next` reads one character from the front of a byte string, or says how many bytes form the longest
prefix that no character can complete. `decode` stops at the first such fault; `decodeReplacing`
puts one replacement character in the place of each.
-/

namespace HttpCourier.Utf8

/-- What is wrong with an encoded character. -/
inductive Reason where
  /-- No character starts with this byte. -/
  | startByte
  /-- A byte that does not continue the character begun before it. -/
  | continuationByte
  /-- The text ends inside a character. -/
  | endOfData
  deriving DecidableEq, Repr

/-- The words for what is wrong. -/
def Reason.message : Reason → String
  | .startByte => "invalid start byte"
  | .continuationByte => "invalid continuation byte"
  | .endOfData => "unexpected end of data"

/-- The first item of a byte string: a character and its length, or a fault and its length. -/
inductive Item where
  | char (c : Char) (length : Nat)
  | fault (reason : Reason) (length : Nat)
  deriving DecidableEq

/-- How many more bytes a first byte asks for, with the least and greatest second byte; `none` for a
byte that starts no character, zero for a character of one byte. -/
def lead (b : Nat) : Option (Nat × Nat × Nat) :=
  if b < 0x80 then some (0, 0, 0)
  else if b < 0xC2 then none
  else if b < 0xE0 then some (1, 0x80, 0xBF)
  else if b = 0xE0 then some (2, 0xA0, 0xBF)
  else if b = 0xED then some (2, 0x80, 0x9F)
  else if b < 0xF0 then some (2, 0x80, 0xBF)
  else if b = 0xF0 then some (3, 0x90, 0xBF)
  else if b < 0xF4 then some (3, 0x80, 0xBF)
  else if b = 0xF4 then some (3, 0x80, 0x8F)
  else none

/-- Reads `missing` further bytes of a character whose bits so far are `bits`; `low` and `high`
bound the next one. `length` bytes were read. -/
def continued (missing low high bits length : Nat) : Bytes → Item
  | [] => if missing = 0 then .char (Char.ofNat bits) length else .fault .endOfData length
  | b :: rest =>
    match missing with
    | 0 => .char (Char.ofNat bits) length
    | m + 1 =>
      if low ≤ b.toNat ∧ b.toNat ≤ high then
        continued m 0x80 0xBF (bits * 64 + (b.toNat - 0x80)) (length + 1) rest
      else .fault .continuationByte length

/-- The bits that a first byte contributes. -/
def leadBits (b missing : Nat) : Nat :=
  match missing with
  | 0 => b
  | 1 => b - 0xC0
  | 2 => b - 0xE0
  | _ => b - 0xF0

/-- The first item of the bytes `b :: rest`. -/
def next (b : UInt8) (rest : Bytes) : Item :=
  match lead b.toNat with
  | none => .fault .startByte 1
  | some (missing, low, high) => continued missing low high (leadBits b.toNat missing) 1 rest

/-- How many bytes an item takes. -/
def Item.length : Item → Nat
  | .char _ n => n
  | .fault _ n => n

/-- A fault in a byte string: where it starts and ends, and what it is. -/
structure Fault where
  first : Nat
  last : Nat
  byte : UInt8
  reason : Reason
  deriving DecidableEq, Repr

/-- The name of the kind of a fault. -/
def Fault.label : String := "UnicodeDecodeError"

/-- The words for a fault: the byte, or the span of bytes, and what is wrong. -/
def Fault.message (f : Fault) : String :=
  if f.first = f.last then
    "'utf-8' codec can't decode byte 0x" ++ Bytes.toHex [f.byte] ++ " in position "
      ++ toString f.first ++ ": " ++ f.reason.message
  else
    "'utf-8' codec can't decode bytes in position " ++ toString f.first ++ "-" ++ toString f.last
      ++ ": " ++ f.reason.message

/-- Reads characters; the items already passed over are skipped bytes, `skip` of them. -/
def decodeReplacingFrom : (skip : Nat) → Bytes → List Char
  | _, [] => []
  | skip + 1, _ :: rest => decodeReplacingFrom skip rest
  | 0, b :: rest =>
    match next b rest with
    | .char c n => c :: decodeReplacingFrom (n - 1) rest
    | .fault _ n => '\ufffd' :: decodeReplacingFrom (n - 1) rest

/-- Reads UTF-8, one replacement character for each longest prefix that cannot be completed. -/
def decodeReplacing (bytes : Bytes) : List Char := decodeReplacingFrom 0 bytes

/-- Reads characters at position `at`, stopping at the first fault. -/
def decodeFrom : (skip pos : Nat) → Bytes → Except Fault (List Char)
  | _, _, [] => .ok []
  | skip + 1, pos, _ :: rest => decodeFrom skip (pos + 1) rest
  | 0, pos, b :: rest =>
    match next b rest with
    | .char c n => (decodeFrom (n - 1) (pos + 1) rest).map (c :: ·)
    | .fault reason n => .error { first := pos, last := pos + n - 1, byte := b, reason }

/-- Reads UTF-8, or gives the first fault. -/
def decode (bytes : Bytes) : Except Fault (List Char) := decodeFrom 0 0 bytes

/-- Whether bytes are UTF-8 throughout. -/
def isValid (bytes : Bytes) : Bool :=
  match decode bytes with
  | .ok _ => true
  | .error _ => false

end HttpCourier.Utf8
