import HttpCourier.Charset.Wide

/-!
# Punycode

A text in Punycode is its ASCII characters, a hyphen, and numbers that tell where the other
characters are inserted. A number is written with the digits a to z and 0 to 9, the least first, and
its last digit is the first below a threshold that `adapt` moves from number to number.
-/

namespace HttpCourier.Charset.Punycode

/-- The value of a digit; letters count alike in both cases. -/
def digit? (b : UInt8) : Option Nat :=
  let c := (Char.ofNat b.toNat).toUpper
  if 'A' ≤ c ∧ c ≤ 'Z' then some (c.toNat - 65)
  else if '0' ≤ c ∧ c ≤ '9' then some (c.toNat - 22)
  else none

/-- The least value of a digit after which the number goes on. -/
def threshold (place bias : Nat) : Nat := min 26 (max 1 (36 * (place + 1) - bias))

/-- Divides until the quotient is small; adds 36 for every division. -/
def scaleDown (delta scale : Nat) : Nat × Nat :=
  if 455 < delta then scaleDown (delta / 35) (scale + 36) else (delta, scale)
termination_by delta
decreasing_by omega

/-- The bias after a number, for a text of `length` characters. -/
def adapt (delta : Nat) (isFirst : Bool) (length : Nat) : Nat :=
  let delta := if isFirst then delta / 700 else delta / 2
  let (delta, scale) := scaleDown (delta + delta / length) 0
  scale + 36 * delta / (delta + 38)

/-- The text so far, the code point and the place of the insertion that comes next, and the number
that is being read. -/
structure State where
  text : List Char
  code : Nat := 0x80
  next : Nat := 0
  bias : Nat := 72
  isFirst : Bool := true
  value : Nat := 0
  weight : Nat := 1
  place : Nat := 0

/-- Inserts the character that a number tells. Behind the last code point the count starts again at
the question mark. -/
def State.insert (s : State) (delta : Nat) : State :=
  let size := s.text.length + 1
  let index := s.next + delta
  let code := if 0x10FFFF < s.code + index / size then '?'.toNat else s.code + index / size
  { text := s.text.take (index % size) ++ codeChar code :: s.text.drop (index % size), code,
    next := index % size + 1, bias := adapt delta s.isFirst size, isFirst := false }

/-- Adds a digit to the number. -/
def State.add (s : State) (digit : Nat) : State :=
  let value := s.value + digit * s.weight
  let t := threshold s.place s.bias
  if digit < t then s.insert value
  else { s with value, weight := s.weight * (36 - t), place := s.place + 1 }

/-- Reads numbers up to the first byte that is no digit. -/
def readNumbers (s : State) : Bytes → List Char
  | [] => s.text
  | b :: rest =>
    match digit? b with
    | some d => readNumbers (s.add d) rest
    | none => s.text

/-- The bytes before the last hyphen and those after it; without one, all are after it. -/
def split (bytes : Bytes) : Bytes × Bytes :=
  let after := (bytes.reverse.takeWhile (· != 0x2D)).reverse
  (bytes.take (bytes.length - after.length - 1), after)

/-- The first byte that is not ASCII, with its place. -/
def firstBeyondAscii? (bytes : Bytes) : Option (UInt8 × Nat) :=
  (bytes.zipIdx).find? fun p => 128 ≤ p.1

/-- Reads Punycode. Before the hyphen what is not ASCII is replaced by U+FFFD; after it such a byte
is an error. -/
def decode (bytes : Bytes) : Except (UInt8 × Nat) (List Char) :=
  let (base, numbers) := split bytes
  match firstBeyondAscii? numbers with
  | some fault => .error fault
  | none =>
    let text := base.map fun b => if b < 128 then Char.ofNat b.toNat else '\ufffd'
    .ok (readNumbers { text } numbers)

end HttpCourier.Charset.Punycode
