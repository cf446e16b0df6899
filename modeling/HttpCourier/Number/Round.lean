/-!
# Rounding a quotient

`roundQuotient num den` is the whole number nearest to `num / den`; a quotient halfway between two
whole numbers goes to the even one.
-/

namespace HttpCourier.Number

/-- The whole number nearest to `num / den`, a half going to the even neighbour. -/
def roundQuotient (num den : Nat) : Nat :=
  let q := num / den
  let r := num % den
  if 2 * r < den then q
  else if den < 2 * r then q + 1
  else if q % 2 = 0 then q else q + 1

end HttpCourier.Number
