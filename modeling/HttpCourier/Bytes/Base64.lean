import HttpCourier.Bytes.Basic

/-!
# Base64

`encode` writes three bytes as four characters of the standard alphabet and pads the last group.
`decode` reads the lenient form: characters outside the alphabet are skipped, and reading stops at
the padding that completes a group. Its errors are those of a text whose groups are not complete.
-/

namespace HttpCourier.Base64

/-- The character of a six-bit value. -/
def digit (n : Nat) : Char :=
  if n < 26 then Char.ofNat (65 + n)
  else if n < 52 then Char.ofNat (71 + n)
  else if n < 62 then Char.ofNat (n - 4)
  else if n = 62 then '+' else '/'

/-- The six-bit value of a character of the alphabet. -/
def digitValue? (c : Char) : Option Nat :=
  let n := c.toNat
  if 65 ≤ n ∧ n ≤ 90 then some (n - 65)
  else if 97 ≤ n ∧ n ≤ 122 then some (n - 71)
  else if 48 ≤ n ∧ n ≤ 57 then some (n + 4)
  else if c = '+' then some 62 else if c = '/' then some 63 else none

/-- The padded Base64 text of bytes. -/
def encode : Bytes → List Char
  | [] => []
  | [a] => [digit (a.toNat / 4), digit (a.toNat % 4 * 16), '=', '=']
  | [a, b] =>
    [digit (a.toNat / 4), digit (a.toNat % 4 * 16 + b.toNat / 16), digit (b.toNat % 16 * 4), '=']
  | a :: b :: c :: rest =>
    digit (a.toNat / 4) :: digit (a.toNat % 4 * 16 + b.toNat / 16)
      :: digit (b.toNat % 16 * 4 + c.toNat / 64) :: digit (c.toNat % 64) :: encode rest

/-- Why a text is not Base64. -/
inductive DecodeError where
  /-- The text ends inside a group that lacks its padding. -/
  | incorrectPadding
  /-- One character is left over after `count - 1` complete groups' characters. -/
  | lonelyDigit (count : Nat)
  deriving DecidableEq, Repr

/-- What is said about a text that is not Base64. -/
def DecodeError.message : DecodeError → String
  | .incorrectPadding => "Incorrect padding"
  | .lonelyDigit count =>
    "Invalid base64-encoded string: number of data characters (" ++ toString count
      ++ ") cannot be 1 more than a multiple of 4"

/-- Reads on inside a group: `carry` holds the bits not yet written, `place` how many characters of
the group were read, `pads` how many padding characters in a row, `written` the bytes so far in
reverse, `count` the data characters so far. -/
def decodeFrom : List Char → (carry place pads count : Nat) → Bytes → Except DecodeError Bytes
  | [], _, place, _, count, written =>
    if place = 0 then .ok written.reverse
    else if place = 1 then .error (.lonelyDigit count)
    else .error .incorrectPadding
  | c :: rest, carry, place, pads, count, written =>
    if c = '=' then
      if 2 ≤ place ∧ 4 ≤ place + (pads + 1) then .ok written.reverse
      else decodeFrom rest carry place (pads + 1) count written
    else match digitValue? c with
      | none => decodeFrom rest carry place pads count written
      | some v =>
        match place with
        | 0 => decodeFrom rest v 1 0 (count + 1) written
        | 1 => decodeFrom rest (v % 16) 2 0 (count + 1) (UInt8.ofNat (carry * 4 + v / 16) :: written)
        | 2 => decodeFrom rest (v % 4) 3 0 (count + 1) (UInt8.ofNat (carry * 16 + v / 4) :: written)
        | _ => decodeFrom rest 0 0 0 (count + 1) (UInt8.ofNat (carry * 64 + v) :: written)

/-- Reads lenient Base64. -/
def decode (text : List Char) : Except DecodeError Bytes := decodeFrom text 0 0 0 0 []

end HttpCourier.Base64
