/-!
# Sets of characters given by ranges

A property of characters is a set of code points, and the standard lists such a set as ranges. A
`CodeRanges` is that list; `CodeRanges.ofHex` reads it from text such as `"41-5a 61-7a aa"`, and
`CodeRanges.contains` decides membership.
-/

namespace HttpCourier.Text

/-- A set of code points: the closed ranges it consists of. -/
abbrev CodeRanges := List (Nat × Nat)

/-- The value of a lower-case hexadecimal digit; any other character counts as zero. -/
def hexDigitValue (c : Char) : Nat :=
  if '0' ≤ c ∧ c ≤ '9' then c.toNat - '0'.toNat
  else if 'a' ≤ c ∧ c ≤ 'f' then c.toNat - 'a'.toNat + 10
  else 0

/-- The number written by lower-case hexadecimal digits. -/
def hexValue (digits : List Char) : Nat :=
  digits.foldl (fun n c => 16 * n + hexDigitValue c) 0

/-- The parts of a text between single separators; one more part than there are separators. -/
def splitOn {α : Type} [DecidableEq α] (sep : α) : List α → List (List α)
  | [] => [[]]
  | c :: rest =>
    let parts := splitOn sep rest
    if c = sep then [] :: parts
    else match parts with
      | [] => [[c]]
      | part :: more => (c :: part) :: more

/-- One range, written `a-b`, or `a` for a single code point. -/
def CodeRanges.parseRange (item : List Char) : Nat × Nat :=
  match splitOn '-' item with
  | [a, b] => (hexValue a, hexValue b)
  | _ => (hexValue item, hexValue item)

/-- Ranges from their text: hexadecimal code points, ranges with a hyphen, blanks between. -/
def CodeRanges.ofHex (text : String) : CodeRanges :=
  (splitOn ' ' text.toList).map CodeRanges.parseRange

/-- Whether a code point lies in one of the ranges. -/
def CodeRanges.contains (ranges : CodeRanges) (n : Nat) : Bool :=
  ranges.any fun r => decide (r.1 ≤ n) && decide (n ≤ r.2)

/-- A number is found in ranges when it is in one of them. -/
theorem CodeRanges.contains_iff {ranges : CodeRanges} {n : Nat} :
    ranges.contains n = true ↔ ∃ r ∈ ranges, r.1 ≤ n ∧ n ≤ r.2 := by
  simp [CodeRanges.contains]

end HttpCourier.Text
