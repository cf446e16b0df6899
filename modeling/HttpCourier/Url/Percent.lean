import HttpCourier.Bytes.Utf8
import HttpCourier.Text.Ranges

/-!
# Percent encoding

A component of an address keeps the printable ASCII characters that are safe in it; every other
character is written as `%XX` for each byte of its UTF-8 form. The percent sign is safe in every
component, so what is encoded already is left alone.
-/

namespace HttpCourier.Url

open Text

/-- Whether a character is printable ASCII. -/
def isPrintableAscii (c : Char) : Bool := decide (0x20 ≤ c.toNat ∧ c.toNat < 0x7F)

/-- Printable ASCII without the given characters. -/
def safeWithout (excluded : String) (c : Char) : Bool :=
  isPrintableAscii c && !excluded.toList.contains c

/-- Safe in a query. -/
def safeInQuery : Char → Bool := safeWithout " \"#<>"

/-- Safe in a path. -/
def safeInPath : Char → Bool := safeWithout " \"#<>?`\x7b\x7d"

/-- Safe in a fragment. -/
def safeInFragment : Char → Bool := safeWithout " \"<>`"

/-- Safe in user information, where a colon stands between the name and the password. -/
def safeInUserInfo : Char → Bool := safeWithout " \"#<>?`\x7b\x7d/;=@[\\]^|"

/-- Safe in the name of a host. -/
def safeInHost (c : Char) : Bool :=
  decide ('a' ≤ c ∧ c ≤ 'z') || decide ('A' ≤ c ∧ c ≤ 'Z') || decide ('0' ≤ c ∧ c ≤ '9')
    || "-._~!$&'()*+,;=\"`\x7b\x7d%|\\".toList.contains c

/-- A byte as a percent sign and two capital digits. -/
def percentByte (b : UInt8) : List Char :=
  let digit (n : Nat) := if n < 10 then Char.ofNat (48 + n) else Char.ofNat (55 + n)
  ['%', digit (b.toNat / 16), digit (b.toNat % 16)]

/-- Encodes the characters that are not safe. -/
def encode (safe : Char → Bool) (s : List Char) : List Char :=
  s.flatMap fun c => if safe c then [c] else (Bytes.ofChars [c]).flatMap percentByte

/-- The bytes that a text stands for; a percent sign without two digits stands for itself. -/
def decodeBytes : List Char → Bytes
  | [] => []
  | '%' :: a :: b :: rest =>
    match Bytes.hexValue? a, Bytes.hexValue? b with
    | some x, some y => UInt8.ofNat (16 * x + y) :: decodeBytes rest
    | _, _ => Bytes.ofChars ['%'] ++ decodeBytes (a :: b :: rest)
  | c :: rest => Bytes.ofChars [c] ++ decodeBytes rest

/-- The text that an encoded text stands for. -/
def decode (s : List Char) : List Char := Utf8.decodeReplacing (decodeBytes s)

end HttpCourier.Url
