import HttpCourier.Number.Round

/-!
# Binary floating point

A `Binary64` is a number of the 64-bit binary format, said by its value: a fraction `m * 2 ^ e` with
a sign, an infinity, or not a number. Arithmetic is exact arithmetic on fractions followed by
`ofRatio`, which rounds to the nearest number of the format, ties to the even mantissa.
-/

namespace HttpCourier

/-- A number of the 64-bit binary format. A finite one has the magnitude `m * 2 ^ e`. -/
inductive Binary64 where
  | nan
  | infinite (negative : Bool)
  | finite (negative : Bool) (m : Nat) (e : Int)
  deriving DecidableEq, Repr, Inhabited

namespace Binary64

open Number

/-- The magnitude `m * 2 ^ e` as a fraction. -/
def ratio (m : Nat) (e : Int) : Nat × Nat :=
  if 0 ≤ e then (m * Nat.pow 2 e.toNat, 1) else (m, Nat.pow 2 (-e).toNat)

/-- The exponent that gives `num / den` a mantissa of fifty-three bits, and never below the least
exponent of the format. -/
def exponentFor (num den : Nat) : Int :=
  let guess : Int := (num.log2 : Int) - (den.log2 : Int) - 53
  let (n, d) :=
    if 0 ≤ guess then (num, den * Nat.pow 2 guess.toNat)
    else (num * Nat.pow 2 (-guess).toNat, den)
  let fitted := if Nat.pow 2 53 ≤ n / d then guess + 1 else guess
  max fitted (-1074)

/-- The number of the format nearest to `num / den`. -/
def ofRatio (negative : Bool) (num den : Nat) : Binary64 :=
  if num = 0 then finite negative 0 0
  else
    let e := exponentFor num den
    let m := if 0 ≤ e then roundQuotient num (den * Nat.pow 2 e.toNat)
      else roundQuotient (num * Nat.pow 2 (-e).toNat) den
    if Nat.pow 2 1024 ≤ (ratio m e).1 / (ratio m e).2 then infinite negative
    else finite negative m e

/-- The number nearest to a natural number. -/
def ofNat (n : Nat) : Binary64 := ofRatio false n 1

/-- The number nearest to an integer. -/
def ofInt (i : Int) : Binary64 := ofRatio (decide (i < 0)) i.natAbs 1

/-- The number nearest to `digits * 10 ^ exponent`. Exponents far outside the format's range are
answered without computing the power. -/
def ofDecimal (negative : Bool) (digits : Nat) (exponent : Int) : Binary64 :=
  if digits = 0 then finite negative 0 0
  else if 400 < exponent then infinite negative
  else if exponent < -(400 + (digits.log2 : Int)) then finite negative 0 0
  else if 0 ≤ exponent then ofRatio negative (digits * Nat.pow 10 exponent.toNat) 1
  else ofRatio negative digits (Nat.pow 10 (-exponent).toNat)

/-- The value as a fraction, positive and negative magnitudes apart; `none` unless it is finite. -/
def toFraction? : Binary64 → Option (Int × Nat)
  | finite neg m e =>
    let (n, d) := ratio m e
    some (if neg then -(n : Int) else n, d)
  | _ => none

/-- `x < y`, false when either is not a number. -/
def lt : Binary64 → Binary64 → Bool
  | nan, _ => false
  | _, nan => false
  | infinite a, infinite b => a && !b
  | infinite a, finite .. => a
  | finite .., infinite b => !b
  | x@(finite ..), y@(finite ..) =>
    match x.toFraction?, y.toFraction? with
    | some (a, b), some (c, d) => decide (a * d < c * b)
    | _, _ => false

/-- `x ≤ y`, false when either is not a number. -/
def le (x y : Binary64) : Bool :=
  match x, y with
  | nan, _ => false
  | _, nan => false
  | _, _ => !lt y x

/-- The sum, rounded. -/
def add : Binary64 → Binary64 → Binary64
  | nan, _ => nan
  | _, nan => nan
  | infinite a, infinite b => if a = b then infinite a else nan
  | infinite a, finite .. => infinite a
  | finite .., infinite b => infinite b
  | x@(finite s ..), y@(finite t ..) =>
    match x.toFraction?, y.toFraction? with
    | some (a, b), some (c, d) =>
      let sum := a * d + c * b
      if sum = 0 then finite (s && t) 0 0
      else ofRatio (decide (sum < 0)) sum.natAbs (b * d)
    | _, _ => nan

/-- The quotient by a positive natural number, rounded. -/
def divNat (x : Binary64) (n : Nat) : Binary64 :=
  match x with
  | finite neg m e =>
    let (a, b) := ratio m e
    if m = 0 then finite neg 0 0 else ofRatio neg a (b * n)
  | other => other

/-- The product with a power of two. -/
def scale (x : Binary64) (k : Nat) : Binary64 :=
  match x with
  | finite neg m e =>
    let (a, b) := ratio m e
    if m = 0 then finite neg 0 0 else ofRatio neg (a * Nat.pow 2 k) b
  | other => other

/-- The integer part, toward zero; `none` unless the number is finite. -/
def truncate? : Binary64 → Option Int
  | finite neg m e =>
    let (a, b) := ratio m e
    some (if neg then -((a / b : Nat) : Int) else (a / b : Nat))
  | _ => none

/-- The nearest integer, a half going to the even one; `none` unless the number is finite. -/
def round? : Binary64 → Option Int
  | finite neg m e =>
    let (a, b) := ratio m e
    some (if neg then -((roundQuotient a b : Nat) : Int) else (roundQuotient a b : Nat))
  | _ => none

/-- Whether the number is a whole number. -/
def isWhole : Binary64 → Bool
  | finite _ m e => let (a, b) := ratio m e; a % b == 0
  | _ => false

/-- Decimal digits of a number with exactly `places` digits after the point. -/
def fixedDigits (places n : Nat) : List Char :=
  let whole := (toString (n / Nat.pow 10 places)).toList
  let part := (toString (n % Nat.pow 10 places)).toList
  whole ++ (if places = 0 then [] else '.' :: List.replicate (places - part.length) '0' ++ part)

/-- The number with six digits after the point; `nan`, `inf` and `-inf` for the others. -/
def toFixed6 : Binary64 → String
  | nan => "nan"
  | infinite neg => if neg then "-inf" else "inf"
  | finite neg m e =>
    let (a, b) := ratio m e
    let digits := fixedDigits 6 (roundQuotient (a * 1000000) b)
    String.ofList (if neg then '-' :: digits else digits)

end Binary64

end HttpCourier
