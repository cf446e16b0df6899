import HttpCourier.Config.Data
import HttpCourier.Number.Parse
import HttpCourier.Text.Case
import HttpCourier.Text.Quoted

/-!
# Data sizes

A size is a number of bytes, or a text such as `10MB` or `512 KB`: a numeral and a unit, with blanks
around either. Units are powers of 1024. The product is computed in floating point, and its fraction
is dropped.
-/

namespace HttpCourier.DataSize

open Text

/-- Why a value is no data size. -/
inductive Error where
  | badText (s : LooseText)
  /-- The unit is written with a sign that looks like a letter but has no capital form in it. -/
  | unknownUnit (s : String)
  | tooLarge
  | badKind (kind : String)
  deriving DecidableEq, Repr

/-- The words for what is no data size. -/
def Error.message : Error → String
  | .badText s => "Invalid data size: " ++ s.quoted
  | .unknownUnit s => quoted s
  | .tooLarge => "cannot convert float infinity to integer"
  | .badKind kind =>
    if kind = "bytes" then "cannot use a string pattern on a bytes-like object"
    else "expected string or bytes-like object, got '" ++ kind ++ "'"

/-- The name of the kind of an error. -/
def Error.label : Error → String
  | .badText _ => "ValueError"
  | .unknownUnit _ => "KeyError"
  | .tooLarge => "OverflowError"
  | .badKind _ => "TypeError"

/-- The letters of the units above the byte; the sign of the kelvin counts as a letter K. -/
def isUnitLetter (c : Char) : Bool := "KMGTkmgt\u212a".toList.contains c

/-- Whether a text is a unit. -/
def isUnit : List Char → Bool
  | [b] => b == 'B' || b == 'b'
  | [c, b] => isUnitLetter c && (b == 'B' || b == 'b')
  | _ => false

/-- How often two is to be multiplied for a unit. -/
def unitExponent? (unit : String) : Option Nat :=
  [("B", 0), ("KB", 10), ("MB", 20), ("GB", 30), ("TB", 40)].lookup unit

/-- A size as it is written: the digits of the numeral, how many of them stand after the point, and
the unit. -/
structure Written where
  digits : Nat
  places : Nat
  unit : List Char

/-- Reads a size. -/
def Written.ofText? (s : List Char) : Option Written := do
  let s := trimChars s
  let whole := s.takeWhile isDecimal
  let rest := s.drop whole.length
  let (fraction, rest) := match rest with
    | '.' :: more =>
      let digits := more.takeWhile isDecimal
      if digits.isEmpty then ([], rest) else (digits, more.drop digits.length)
    | _ => ([], rest)
  let unit := trimLeft rest
  let digits ← Number.parseNat? (whole ++ fraction)
  if whole.isEmpty || !(unit.isEmpty || isUnit unit) then none
  else some { digits, places := fraction.length, unit }

/-- The number of bytes of a size that was read. -/
def Written.toBytes (w : Written) : Except Error Int :=
  let unit := if w.unit.isEmpty then "B" else upper (String.ofList w.unit)
  match unitExponent? unit with
  | none => .error (.unknownUnit unit)
  | some k =>
    match ((Binary64.ofDecimal false w.digits (-(w.places : Int))).scale k).truncate? with
    | some n => .ok n
    | none => .error .tooLarge

/-- The number of bytes of a text. -/
def ofText (s : String) : Except Error Int :=
  match Written.ofText? s.toList with
  | none => .error (.badText s)
  | some w => w.toBytes

/-- The size of a value; numbers and switches are left alone. -/
def ofData (d : Data) : Except Error Data :=
  match d with
  | .whole _ | .flag _ => .ok d
  | .text s => (ofText s).map .whole
  | .torn t => .error (.badText (.torn t))
  | other => .error (.badKind other.kindName)

end HttpCourier.DataSize
