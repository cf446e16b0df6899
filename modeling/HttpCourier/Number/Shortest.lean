import HttpCourier.Number.Binary64

/-!
# The shortest text of a number

`Binary64.shortest?` gives the fewest decimal digits that read back as the same number, and of these
the nearest. `Binary64.text` writes them, with a power of ten where the point would be far away.
-/

namespace HttpCourier.Binary64

/-- The decimal exponent of the first digit of a positive fraction. -/
def leadingExponent (num den : Nat) : Int :=
  let d : Int := (toString num).length - (toString den).length
  let isReached : Bool :=
    if 0 ≤ d then decide (den * Nat.pow 10 d.toNat ≤ num) else decide (den ≤ num * Nat.pow 10 (-d).toNat)
  if isReached then d else d - 1

/-- The fraction in units of `10 ^ e`. -/
def inUnits (num den : Nat) (e : Int) : Nat × Nat :=
  if 0 ≤ e then (num, den * Nat.pow 10 e.toNat) else (num * Nat.pow 10 (-e).toNat, den)

/-- Whether a positive number is the one nearest to `n * 10 ^ e`. -/
def readsBack (x : Binary64) (n : Nat) (e : Int) : Bool :=
  let y := ofDecimal false n e
  x.le y && y.le x

/-- The neighbour of the fraction among the multiples of `10 ^ e` that reads back as the number; of
two the nearer one, and of two equally near ones the even one. -/
def neighbour? (x : Binary64) (num den : Nat) (e : Int) : Option Nat :=
  let (n, d) := inUnits num den e
  let below := n / d
  match readsBack x below e, readsBack x (below + 1) e with
  | true, true => some (Number.roundQuotient n d)
  | true, false => some below
  | false, true => some (below + 1)
  | false, false => none

/-- The most digits that a number of the format needs. -/
def maxDigits : Nat := 17

/-- The shortest digits of a positive number with the magnitude `num / den`, as a multiple of a
power of ten. -/
def shortest? (x : Binary64) (num den : Nat) : Option (Nat × Int) :=
  let top := leadingExponent num den
  (List.range maxDigits).findSome? fun (k : Nat) =>
    let e := top - k
    (neighbour? x num den e).map fun n => (n, e)

/-- A digit sequence without the zeros at its end. -/
def trimZeros (digits : List Char) : List Char :=
  (digits.reverse.dropWhile (· == '0')).reverse

/-- The least exponent of the first digit at which the number is written with a power of ten. -/
def positionalLimit : Int := 16

/-- The least exponent of the first digit at which the number is written without a power of ten. -/
def positionalFloor : Int := -4

/-- Digits with the point behind the place of the exponent `top`. -/
def positional (digits : List Char) (top : Int) : List Char :=
  if top < 0 then '0' :: '.' :: List.replicate (-top - 1).toNat '0' ++ digits
  else
    let places := top.toNat + 1
    let whole := digits.take places ++ List.replicate (places - digits.length) '0'
    whole ++ '.' :: (if digits.length ≤ places then ['0'] else digits.drop places)

/-- Digits with a power of ten. -/
def scientific (digits : List Char) (top : Int) : List Char :=
  let exponent := (toString top.natAbs).toList
  digits.take 1 ++ (if digits.length ≤ 1 then [] else '.' :: digits.drop 1)
    ++ 'e' :: (if top < 0 then '-' else '+') :: List.replicate (2 - exponent.length) '0' ++ exponent

/-- The magnitude `m * 2 ^ e` in its shortest form. -/
def magnitudeText (m : Nat) (e : Int) : List Char :=
  if m = 0 then ['0', '.', '0']
  else
    let (num, den) := ratio m e
    match shortest? (finite false m e) num den with
    | none => []
    | some (n, e) =>
      let all := (toString n).toList
      let top := e + all.length - 1
      let digits := trimZeros all
      if positionalFloor ≤ top ∧ top < positionalLimit then positional digits top
      else scientific digits top

/-- A number in its shortest form. -/
def text : Binary64 → String
  | nan => "nan"
  | infinite negative => if negative then "-inf" else "inf"
  | finite negative m e =>
    String.ofList (if negative then '-' :: magnitudeText m e else magnitudeText m e)

end HttpCourier.Binary64
