import HttpCourier.Number.Binary64
import HttpCourier.Text.Blank
import HttpCourier.Text.Digit

/-!
# Numbers in text

The readers of numerals. `parseNat?` takes the decimal digits of every script. `parseInt?` reads an
integer the way a port is read: blanks around, a sign, and single underscores between digits.
`parseFloat?` reads a decimal numeral with an optional fraction and exponent, or the words for the
infinities and for not a number.
-/

namespace HttpCourier.Number

open Text

/-- The digits' values, or `none` when a character is no decimal digit. -/
def digitValues? (s : List Char) : Option (List Nat) := s.mapM decimalValue?

/-- The number that digit values write in base ten. -/
def ofDigits (ds : List Nat) : Nat := ds.foldl (fun n d => 10 * n + d) 0

/-- A numeral of at least one digit. -/
def parseNat? (s : List Char) : Option Nat :=
  if s.isEmpty then none else (digitValues? s).map ofDigits

/-- Splits off a sign; `true` is minus. -/
def splitSign : List Char → Bool × List Char
  | '-' :: rest => (true, rest)
  | '+' :: rest => (false, rest)
  | s => (false, s)

/-- Drops the underscores that stand alone between digits; `none` for any other underscore. -/
def dropUnderscores? : (afterDigit : Bool) → List Char → Option (List Char)
  | _, [] => some []
  | afterDigit, '_' :: rest =>
    match rest with
    | d :: _ => if afterDigit && isDecimal d then dropUnderscores? false rest else none
    | [] => none
  | _, c :: rest => (dropUnderscores? (isDecimal c) rest).map (c :: ·)

/-- An integer with blanks around, a sign, and single underscores between digits. -/
def parseInt? (s : List Char) : Option Int :=
  let (negative, digits) := splitSign (trimChars s)
  match dropUnderscores? false digits with
  | none => none
  | some ds => (parseNat? ds).map fun n => if negative then -(n : Int) else n

/-- The longest front of ASCII digits, and the rest. -/
def spanDigits (s : List Char) : List Char × List Char :=
  (s.takeWhile isAsciiDigit, s.dropWhile isAsciiDigit)

/-- Letters in small form, other characters as they are; ASCII only. -/
def lowerAscii (s : List Char) : List Char := s.map Char.toLower

/-- The exponent of a numeral: `e`, a sign, digits; nothing at all is the exponent zero. -/
def parseExponent? : List Char → Option Int
  | [] => some 0
  | c :: rest =>
    if c = 'e' ∨ c = 'E' then
      let (negative, digits) := splitSign rest
      if digits.isEmpty || !digits.all isAsciiDigit then none
      else (parseNat? digits).map fun n => if negative then -(n : Int) else n
    else none

/-- A numeral with an optional fraction and exponent, at least one digit before the exponent. -/
def parseDecimal? (negative : Bool) (s : List Char) : Option Binary64 :=
  let (whole, rest) := spanDigits s
  let (fraction, rest) := match rest with
    | '.' :: more => spanDigits more
    | _ => ([], rest)
  if whole.isEmpty && fraction.isEmpty then none
  else match parseExponent? rest, parseNat? (whole ++ fraction) with
    | some e, some digits => some (Binary64.ofDecimal negative digits (e - fraction.length))
    | _, _ => none

/-- A number in ASCII text: a numeral, or `inf`, `infinity` or `nan` in any case, with a sign. -/
def parseFloat? (s : List Char) : Option Binary64 :=
  let (negative, body) := splitSign s
  let word := String.ofList (lowerAscii body)
  if word = "inf" ∨ word = "infinity" then some (.infinite negative)
  else if word = "nan" then some .nan
  else parseDecimal? negative body

end HttpCourier.Number
