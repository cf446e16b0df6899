import HttpCourier.Bytes.Utf8
import HttpCourier.Url.Percent

/-!
# Charsets of wide units, and charsets of escapes

UTF-16 and UTF-32 in either order of bytes, UTF-7, and texts in which characters are written as
escapes. What cannot be read is replaced by one U+FFFD.
-/

namespace HttpCourier.Charset

/-- The character of a code point; U+FFFD for one that is none. -/
def codeChar (n : Nat) : Char := if n.isValidChar then Char.ofNat n else '\ufffd'

/-- Whether a unit opens a pair. -/
def isHigh (u : Nat) : Bool := decide (0xD800 ≤ u ∧ u < 0xDC00)

/-- Whether a unit closes a pair. -/
def isLow (u : Nat) : Bool := decide (0xDC00 ≤ u ∧ u < 0xE000)

/-- The character of a pair of units. -/
def pairChar (high low : Nat) : Char := codeChar (0x10000 + (high - 0xD800) * 0x400 + (low - 0xDC00))

/-- A unit of two bytes. -/
def unit16 (big : Bool) (a b : UInt8) : Nat :=
  if big then a.toNat * 256 + b.toNat else b.toNat * 256 + a.toNat

/-- Reads UTF-16; `pending` is a unit that opened a pair. -/
def decodeUtf16 (big : Bool) (pending : Option Nat) : Bytes → List Char
  | [] => if pending.isSome then ['\ufffd'] else []
  | [_] => ['\ufffd']
  | a :: b :: rest =>
    let u := unit16 big a b
    match pending with
    | some high =>
      if isLow u then pairChar high u :: decodeUtf16 big none rest
      else if isHigh u then '\ufffd' :: decodeUtf16 big (some u) rest
      else '\ufffd' :: codeChar u :: decodeUtf16 big none rest
    | none =>
      if isHigh u then decodeUtf16 big (some u) rest else codeChar u :: decodeUtf16 big none rest

/-- Reads UTF-16 whose order of bytes a mark at the front tells; without one it is little-endian. -/
def decodeMarkedUtf16 : Bytes → List Char
  | 0xFE :: 0xFF :: rest => decodeUtf16 true none rest
  | 0xFF :: 0xFE :: rest => decodeUtf16 false none rest
  | bytes => decodeUtf16 false none bytes

/-- Reads UTF-32. -/
def decodeUtf32 (big : Bool) : Bytes → List Char
  | [] => []
  | a :: b :: c :: d :: rest =>
    let n (w x y z : UInt8) := ((w.toNat * 256 + x.toNat) * 256 + y.toNat) * 256 + z.toNat
    codeChar (if big then n a b c d else n d c b a) :: decodeUtf32 big rest
  | _ => ['\ufffd']

/-- Reads UTF-32 whose order of bytes a mark at the front tells. -/
def decodeMarkedUtf32 : Bytes → List Char
  | 0 :: 0 :: 0xFE :: 0xFF :: rest => decodeUtf32 true rest
  | 0xFF :: 0xFE :: 0 :: 0 :: rest => decodeUtf32 false rest
  | bytes => decodeUtf32 false bytes

namespace Utf7

/-- The value of a Base64 digit. -/
def digit? (b : UInt8) : Option Nat :=
  let c := Char.ofNat b.toNat
  if 'A' ≤ c ∧ c ≤ 'Z' then some (b.toNat - 65)
  else if 'a' ≤ c ∧ c ≤ 'z' then some (b.toNat - 71)
  else if '0' ≤ c ∧ c ≤ '9' then some (b.toNat + 4)
  else if c = '+' then some 62
  else if c = '/' then some 63
  else none

/-- A shifted section: the bits not yet used, how many they are, and a unit that opened a pair. -/
structure Shift where
  buffer : Nat := 0
  bits : Nat := 0
  high : Option Nat := none

/-- What a shifted section leaves at its end: whether it ends inside a unit. -/
def Shift.isBroken (s : Shift) : Bool := decide (6 ≤ s.bits) || (decide (0 < s.bits) && s.buffer != 0)

/-- Adds a digit to a section; gives the characters that are complete. -/
def Shift.add (s : Shift) (v : Nat) : List Char × Shift :=
  let buffer := s.buffer * 64 + v
  let bits := s.bits + 6
  if bits < 16 then ([], { s with buffer, bits })
  else
    let u := buffer / Nat.pow 2 (bits - 16)
    let left : Shift := { buffer := buffer % Nat.pow 2 (bits - 16), bits := bits - 16 }
    let alone (out : List Char) : List Char × Shift :=
      if isHigh u then (out, { left with high := some u }) else (out ++ [codeChar u], left)
    match s.high with
    | some high => if isLow u then ([pairChar high u], left) else alone ['\ufffd']
    | none => alone []

/-- Reads UTF-7: direct characters, and sections of shifted units between `+` and the first byte
that is no digit. A hyphen that ends a section belongs to it. -/
def decode : Option Shift → Bytes → List Char
  | none, [] => []
  | some s, [] => if s.isBroken || s.high.isSome then ['\ufffd'] else []
  | none, b :: rest =>
    if b = 0x2B then
      match rest with
      | [] => []
      | n :: after =>
        if n = 0x2D then '+' :: decode none after
        else if (digit? n).isNone then '\ufffd' :: decode none after
        else decode (some {}) (n :: after)
    else if b < 128 then Char.ofNat b.toNat :: decode none rest
    else '\ufffd' :: decode none rest
  | some s, b :: rest =>
    match digit? b with
    | some v =>
      let (out, s) := s.add v
      out ++ decode (some s) rest
    | none =>
      if s.isBroken then '\ufffd' :: decode none rest
      else
        let lost := if s.high.isSome && decide (b < 128) then ['\ufffd'] else []
        if b = 0x2D then lost ++ decode none rest
        else if b < 128 then lost ++ Char.ofNat b.toNat :: decode none rest
        else lost ++ '\ufffd' :: decode none rest
termination_by _ bytes => bytes.length
decreasing_by all_goals simp only [List.length_cons]; omega

end Utf7

/-- Reads at most `count` hexadecimal digits: their value, how many they are, and the rest. -/
def readHex (count value read : Nat) : Bytes → Nat × Nat × Bytes
  | [] => (value, read, [])
  | b :: rest =>
    match count, Bytes.hexValue? (Char.ofNat b.toNat) with
    | n + 1, some d => readHex n (16 * value + d) (read + 1) rest
    | _, _ => (value, read, b :: rest)

/-- Hexadecimal digits are read off the front. -/
theorem length_of_readHex (count value read : Nat) (bytes : Bytes) :
    (readHex count value read bytes).2.2.length ≤ bytes.length := by
  induction bytes generalizing count value read with
  | nil => simp [readHex]
  | cons b rest ih =>
    unfold readHex
    split
    · exact Nat.le_trans (ih _ _ _) (by simp)
    · simp

/-- The character of the digits that were read, if there are enough of them. -/
def escapedChar (count : Nat) (digits : Nat × Nat × Bytes) : Char :=
  if digits.2.1 = count then codeChar digits.1 else '\ufffd'

/-- The character of an escape with a single letter. -/
def simpleEscape? (c : Char) : Option (List Char) :=
  [('\n', []), ('\\', ['\\']), ('\'', ['\'']), ('"', ['"']), ('b', ['\x08']), ('f', ['\x0c']),
    ('t', ['\t']), ('n', ['\n']), ('r', ['\r']), ('v', ['\x0b']), ('a', ['\x07'])].lookup c

/-- How many digits an escape by code point has. -/
def escapeDigits? (c : Char) : Option Nat := [('x', 2), ('u', 4), ('U', 8)].lookup c

/-- The value of an octal digit. -/
def octalDigit? (b : UInt8) : Option Nat :=
  if 0x30 ≤ b ∧ b ≤ 0x37 then some (b.toNat - 0x30) else none

/-- Reads a text with escapes. With `all`, all escapes are known; without it only those of four and
eight digits are. -/
def decodeEscapes (all : Bool) (bytes : Bytes) : List Char :=
  match bytes with
  | [] => []
  | [b] => if b = 0x5C then [if all then '\ufffd' else '\\'] else [Char.ofNat b.toNat]
  | b :: e :: rest =>
    if b ≠ 0x5C then Char.ofNat b.toNat :: decodeEscapes all (e :: rest)
    else
      let c := Char.ofNat e.toNat
      match escapeDigits? c with
      | some count =>
        if !all && c = 'x' then '\\' :: c :: decodeEscapes all rest
        else
          have := length_of_readHex count 0 0 rest
          escapedChar count (readHex count 0 0 rest)
            :: decodeEscapes all (readHex count 0 0 rest).2.2
      | none =>
        if !all then '\\' :: c :: decodeEscapes all rest
        else match simpleEscape? c, octalDigit? e with
          | some out, _ => out ++ decodeEscapes all rest
          | none, some a =>
            match rest with
            | x :: y :: more =>
              match octalDigit? x, octalDigit? y with
              | some p, some q => codeChar (64 * a + 8 * p + q) :: decodeEscapes all more
              | some p, none => codeChar (8 * a + p) :: decodeEscapes all (y :: more)
              | none, _ => codeChar a :: decodeEscapes all (x :: y :: more)
            | [x] =>
              match octalDigit? x with
              | some p => [codeChar (8 * a + p)]
              | none => codeChar a :: decodeEscapes all [x]
            | [] => [codeChar a]
          | none, none => '\\' :: c :: decodeEscapes all rest
termination_by bytes.length
decreasing_by
  all_goals simp only [List.length_cons]
  all_goals omega

end HttpCourier.Charset
