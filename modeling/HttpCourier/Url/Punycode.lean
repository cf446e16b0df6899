import HttpCourier.Text.Case
import HttpCourier.Text.Digit
import HttpCourier.Text.Word

/-!
# International host names

A label with characters outside ASCII is written as `xn--` and the Punycode of the label (RFC 3492):
the ASCII characters first, then the positions of the others as numbers with variable digits.
-/

namespace HttpCourier.Url

open Text

namespace Punycode

/-- Reduces a distance until it is at most 455; gives the multiple of 36 taken off. -/
def reduce (delta k : Nat) : Nat :=
  if 455 < delta then reduce (delta / 35) (k + 36) else k + 36 * delta / (delta + 38)
termination_by delta
decreasing_by omega

/-- The bias after a distance was written. -/
def adapt (delta count : Nat) (first : Bool) : Nat :=
  let delta := if first then delta / 700 else delta / 2
  reduce (delta + delta / count) 0

/-- The threshold of the digit at place `k`. -/
def threshold (k bias : Nat) : Nat :=
  if k ≤ bias then 1 else if bias + 26 ≤ k then 26 else k - bias

/-- The character of a digit below 36. -/
def digit (d : Nat) : Char := if d < 26 then Char.ofNat (97 + d) else Char.ofNat (22 + d)

/-- The value of a digit. -/
def digitValue? (c : Char) : Option Nat :=
  if 'a' ≤ c ∧ c ≤ 'z' then some (c.toNat - 97)
  else if 'A' ≤ c ∧ c ≤ 'Z' then some (c.toNat - 65)
  else if '0' ≤ c ∧ c ≤ '9' then some (c.toNat - 22)
  else none

/-- A number with variable digits, from place `k` on. -/
def writeNumber (q k bias : Nat) : List Char :=
  let t := threshold k bias
  if q < t then [digit q]
  else digit (t + (q - t) % (36 - t)) :: writeNumber ((q - t) / (36 - t)) (k + 36) bias
termination_by q
decreasing_by
  have ht : 0 < threshold k bias ∧ threshold k bias ≤ 26 := by
    unfold threshold
    split <;> (try split) <;> omega
  have := Nat.div_le_self (q - threshold k bias) (36 - threshold k bias)
  omega

/-- Where the writer stands: the last code point, the distance, the bias, and how many characters
were written. -/
structure State where
  code : Nat := 128
  delta : Nat := 0
  bias : Nat := 72
  written : Nat
  first : Bool := true

/-- Writes every occurrence of the code point `code` in the label. -/
def writeCode (code : Nat) : List Nat → State → List Char × State
  | [], s => ([], s)
  | c :: rest, s =>
    if c < code then writeCode code rest { s with delta := s.delta + 1 }
    else if c = code then
      let text := writeNumber s.delta 36 s.bias
      let s := { s with
        delta := 0, bias := adapt s.delta (s.written + 1) s.first, written := s.written + 1,
        first := false }
      let (more, s) := writeCode code rest s
      (text ++ more, s)
    else writeCode code rest s

/-- Writes the code points in increasing order. -/
def writeCodes (label : List Nat) : List Nat → State → List Char
  | [], _ => []
  | code :: rest, s =>
    let s := { s with delta := s.delta + (code - s.code) * (s.written + 1), code }
    let (text, s) := writeCode code label s
    text ++ writeCodes label rest { s with delta := s.delta + 1, code := code + 1 }

/-- The Punycode of a label. -/
def encode (label : List Char) : List Char :=
  let codes := label.map Char.toNat
  let basic := label.filter fun c => decide (c.toNat < 128)
  let others := ((codes.filter (128 ≤ ·)).eraseDups).mergeSort (· ≤ ·)
  basic ++ (if basic.isEmpty then [] else ['-'])
    ++ writeCodes codes others { written := basic.length }

/-- Reads a number with variable digits: the number and what follows it. -/
def readNumber? : List Char → (k weight bias total : Nat) → Option (Nat × List Char)
  | [], _, _, _, _ => none
  | c :: rest, k, weight, bias, total => do
    let d ← digitValue? c
    let t := threshold k bias
    let total := total + d * weight
    if d < t then return (total, rest)
    else readNumber? rest (k + 36) (weight * (36 - t)) bias total

/-- A number has digits, so reading goes on with fewer characters. -/
theorem length_of_readNumber? {s rest : List Char} {k w b t n : Nat}
    (h : readNumber? s k w b t = some (n, rest)) : rest.length < s.length := by
  induction s generalizing k w t with
  | nil => simp [readNumber?] at h
  | cons c s ih =>
    simp only [readNumber?, Option.bind_eq_bind, Option.bind_eq_some_iff] at h
    obtain ⟨d, -, h⟩ := h
    split at h
    · simp at h; simp [← h.2]
    · have := ih h; simp; omega

/-- Reads the positions of the characters outside ASCII and puts them in. -/
def readInsertions? (s : List Char) (code index bias : Nat) (first : Bool) (out : List Char) :
    Option (List Char) :=
  match s with
  | [] => some out
  | c :: cs =>
    match _h : readNumber? (c :: cs) 36 1 bias 0 with
    | none => none
    | some (delta, rest) =>
      let size := out.length + 1
      let total := index + delta
      let code := code + total / size
      let place := total % size
      if code < 0x110000 then
        readInsertions? rest code (place + 1) (adapt delta size first) false
          (out.take place ++ [Char.ofNat code] ++ out.drop place)
      else none
termination_by s.length
decreasing_by exact length_of_readNumber? _h

/-- The label of a Punycode text. -/
def decode? (s : List Char) : Option (List Char) :=
  let afterLast := (s.reverse.takeWhile (· != '-')).reverse
  let basic := (s.take (s.length - afterLast.length)).dropLast
  readInsertions? afterLast 128 0 72 true basic

end Punycode

/-- What a label in ASCII starts with when it stands for one that is not. -/
def asciiLabelMark : List Char := "xn--".toList

/-- Whether a character may stand in a label. -/
def isLabelChar (c : Char) : Bool :=
  if c.toNat < 128 then decide ('a' ≤ c ∧ c ≤ 'z') || isAsciiDigit c || c == '-'
  else isAlphanumeric c && lowerChar c == c

/-- Whether a label may stand in a host name. -/
def isLabel (label : List Char) : Bool :=
  !label.isEmpty && label.all isLabelChar && label.head? != some '-'
    && label.getLast? != some '-' && (label.drop 2).take 2 != ['-', '-']

/-- A label in ASCII. -/
def asciiLabel? (label : List Char) : Option (List Char) :=
  let text := if label.all fun c => decide (c.toNat < 128) then label
    else asciiLabelMark ++ Punycode.encode label
  let known := asciiLabelMark.isPrefixOf label || isLabel label
  if known && decide (text.length ≤ 63) then some text else none

/-- Splits a host name at its dots, of any script. -/
def labels (host : List Char) : List (List Char) :=
  splitOn '.' (host.map fun c =>
    if c = '\u3002' ∨ c = '\uff0e' ∨ c = '\uff61' then '.' else c)

/-- A host name in ASCII. -/
def asciiHost? (host : List Char) : Option (List Char) := do
  let parts := labels host
  let dotted := decide (1 < parts.length) && (parts.getLastD []).isEmpty
  let parts ← (if dotted then parts.dropLast else parts).mapM asciiLabel?
  let text := List.intercalate ['.'] parts ++ (if dotted then ['.'] else [])
  if text.length ≤ (if dotted then 254 else 253) then some text else none

/-- A host name as it is read by people: labels in their own script. -/
def unicodeHost (host : List Char) : List Char :=
  if asciiLabelMark.isPrefixOf host then
    List.intercalate ['.'] ((labels host).map fun label =>
      if asciiLabelMark.isPrefixOf label then
        (Punycode.decode? (label.drop asciiLabelMark.length)).getD label
      else label)
  else host

end HttpCourier.Url
