import HttpCourier.Bytes.Basic
import HttpCourier.Charset.Chinese
import HttpCourier.Charset.Japanese
import HttpCourier.Charset.Korean
import HttpCourier.Charset.Traditional
import HttpCourier.Text.Ranges

/-!
# East Asian charsets

A charset of this kind says of every byte, seen with the bytes that follow it, what begins there: a
`Front`. `decodeFronts` reads a byte string by it. A byte at which no character begins is replaced
by U+FFFD, and so is all that is left when the bytes end inside a character.
-/

namespace HttpCourier.Charset

open Text

/-- What begins at a byte. -/
inductive Front where
  /-- A text that takes `more` bytes after the first. -/
  | text (chars : List Char) (more : Nat)
  /-- No character. -/
  | fault
  /-- A character whose last bytes are missing. -/
  | cut
  deriving DecidableEq

/-- A character that takes `more` bytes after the first. -/
def Front.char (c : Char) (more : Nat) : Front := .text [c] more

/-- Reads bytes by what begins at each; `skip` bytes at the front belong to a character that was
read. -/
def decodeFronts (front : UInt8 → Bytes → Front) : (skip : Nat) → Bytes → List Char
  | _, [] => []
  | skip + 1, _ :: rest => decodeFronts front skip rest
  | 0, b :: rest =>
    match front b rest with
    | .text chars more => chars ++ decodeFronts front more rest
    | .fault => '\ufffd' :: decodeFronts front 0 rest
    | .cut => ['\ufffd']

/-- Reads bytes of which those below 128 are ASCII; `front` says what begins at the others. -/
def decodeBeyondAscii (front : UInt8 → Bytes → Front) : Bytes → List Char :=
  decodeFronts (fun b rest => if b < 0x80 then .char (Char.ofNat b.toNat) 0 else front b rest) 0

/-- A character of `more + 1` bytes, unless the table has none. -/
def Front.ofCell (more : Nat) : Option Char → Front
  | some c => .char c more
  | none => .fault

/-- What a pair of bytes stands for, by a table of fronts. -/
def pairOf (table : Nat → Nat → Front) (a : UInt8) : Bytes → Front
  | [] => .cut
  | b :: _ => table a.toNat b.toNat

/-- A character of two bytes, from the table of a charset. -/
def pairFront (table : Nat → Nat → Option Char) : UInt8 → Bytes → Front :=
  pairOf fun a b => .ofCell 1 (table a b)

/-- The character at a row and a column of a table. -/
def cell? (rows : List String) (row col : Nat) : Option Char :=
  match rows[row]?.bind fun text => text.toList[col]? with
  | some '.' => none
  | c => c

/-- What stands at the place of a square of ninety-four rows whose bytes both start at 0xA1. -/
def inSquare? {α : Type} (table : Nat → Nat → Option α) (a b : Nat) : Option α :=
  if 0xA1 ≤ a ∧ 0xA1 ≤ b then table (a - 0xA1) (b - 0xA1) else none

/-- The character at the place of a square. -/
def squareCell? (rows : List String) : Nat → Nat → Option Char := inSquare? (cell? rows)

/-! ## Japanese -/

/-- The half-width katakana of a byte. -/
def kana? (b : UInt8) : Option Char :=
  if 0xA1 ≤ b ∧ b ≤ 0xDF then some (Char.ofNat (0xFEC0 + b.toNat)) else none

/-- The row and the column of a shifted pair; the second byte of a pair tells its two rows apart. -/
def shiftedPlace? (a b : Nat) : Option (Nat × Nat) :=
  if b < 0x40 ∨ b = 0x7F ∨ 0xFC < b then none
  else
    let row := 2 * (if a < 0xA0 then a - 0x81 else a - 0xC1)
    let col := if b < 0x7F then b - 0x40 else b - 0x41
    some (if col < 94 then (row, col) else (row + 1, col - 94))

/-- What begins at a byte of a shifted charset, by what stands at the places of its pairs. -/
def shiftedFront (table : Nat → Nat → Front) (a : UInt8) (rest : Bytes) : Front :=
  match kana? a with
  | some c => .char c 0
  | none =>
    if a = 0x80 ∨ a = 0xA0 ∨ 0xFC < a then .fault
    else pairOf (fun a b => (shiftedPlace? a b).elim .fault fun place => table place.1 place.2) a rest

/-- What begins at a byte of the shifted charset of JIS X 0208. -/
def shiftedJisFront : UInt8 → Bytes → Front := shiftedFront fun row col => .ofCell 1 (cell? jisRows row col)

/-- The characters of JIS X 0208 that the vendors' table replaces by others. -/
def vendorChanges : List ((Nat × Nat) × Char) :=
  [((0, 32), '～'), ((0, 33), '∥'), ((0, 60), '－'), ((0, 80), '￠'), ((0, 81), '￡'), ((1, 43), '￢')]

/-- The character at a place of the vendors' table; the rows from 95 to 114 are for private use. -/
def vendorCell? (row col : Nat) : Option Char :=
  if let some c := vendorChanges.lookup (row, col) then some c
  else if row = 12 then cell? jisVendorRow 0 col
  else if 114 ≤ row then cell? jisExtraRows (row - 114) col
  else if 94 ≤ row then some (Char.ofNat (0xE000 + (row - 94) * 94 + col))
  else if 88 ≤ row ∧ row < 92 then cell? jisVendorRows (row - 88) col
  else cell? jisRows row col

/-- What begins at a byte of the vendors' charset, in which every single byte is a character. -/
def vendorFront (a : UInt8) (rest : Bytes) : Front :=
  if a = 0x80 then .char '\x80' 0
  else if a = 0xA0 then .char '\uf8f0' 0
  else if 0xFD ≤ a then .char (Char.ofNat (0xF8F1 + (a.toNat - 0xFD))) 0
  else shiftedFront (fun row col => .ofCell 1 (vendorCell? row col)) a rest

/-- What begins at a byte of a form of EUC-JP: katakana after 0x8E, a pair of its further characters
after 0x8F, or a pair of its own. -/
def eucJapaneseFront (pair : Nat → Nat → Front) (further : Nat → Nat → Option Char) (a : UInt8)
    (rest : Bytes) : Front :=
  if a = 0x8E then
    match rest with
    | [] => .cut
    | b :: _ => .ofCell 1 (kana? b)
  else if a = 0x8F then
    match rest with
    | b :: c :: _ => .ofCell 2 (further b.toNat c.toNat)
    | _ => .cut
  else pairOf pair a rest

/-! ## JIS X 0213 -/

/-- An edition of JIS X 0213. -/
inductive JisEdition where
  | of2000
  | of2004
  deriving DecidableEq

/-- The places of the first plane that the edition of 2004 filled. -/
def jisAddedPlaces : List (Nat × Nat) :=
  [(13, 0), (14, 93), (46, 51), (46, 93), (83, 6), (93, 89), (93, 90), (93, 91), (93, 92), (93, 93)]

/-- The places of the first plane for a letter with a mark behind it. -/
def jisMarkedLetters : List ((Nat × Nat) × List Char) :=
  [((3, 86), ['か', '\u309a']), ((3, 87), ['き', '\u309a']), ((3, 88), ['く', '\u309a']),
    ((3, 89), ['け', '\u309a']), ((3, 90), ['こ', '\u309a']), ((4, 86), ['カ', '\u309a']),
    ((4, 87), ['キ', '\u309a']), ((4, 88), ['ク', '\u309a']), ((4, 89), ['ケ', '\u309a']),
    ((4, 90), ['コ', '\u309a']), ((4, 91), ['セ', '\u309a']), ((4, 92), ['ツ', '\u309a']),
    ((4, 93), ['ト', '\u309a']), ((5, 87), ['ㇷ', '\u309a']), ((10, 35), ['æ', '\u0300']),
    ((10, 39), ['ɔ', '\u0300']), ((10, 40), ['ɔ', '\u0301']), ((10, 41), ['ʌ', '\u0300']),
    ((10, 42), ['ʌ', '\u0301']), ((10, 43), ['ə', '\u0300']), ((10, 44), ['ə', '\u0301']),
    ((10, 45), ['ɚ', '\u0300']), ((10, 46), ['ɚ', '\u0301']), ((10, 68), ['˩', '˥']),
    ((10, 69), ['˥', '˩'])]

/-- The text at a place of the first plane. -/
def firstPlaneText? (edition : JisEdition) (row col : Nat) : Option (List Char) :=
  if edition = .of2000 ∧ jisAddedPlaces.contains (row, col) then none
  else (jisMarkedLetters.lookup (row, col)).or
    (((cell? jisRows row col).or (cell? jisFirstPlaneRows row col)).map fun c => [c])

/-- The character at a place of the second plane. -/
def secondPlaneCell? (row col : Nat) : Option Char :=
  (jisSecondPlaneNumbers.idxOf? row).bind fun place => cell? jisSecondPlaneRows place col

/-- The character at a place of the second plane in an edition: one was written otherwise in
2000. -/
def editionCell? (edition : JisEdition) (row col : Nat) : Option Char :=
  if edition = .of2000 ∧ (row, col) = (92, 26) then some '鬝' else secondPlaneCell? row col

/-- What a pair of bytes for a place of the first plane stands for. What only the edition of 2004
has is not readable in that of 2000, but passed over as a pair. -/
def firstPlaneFront (edition : JisEdition) (row col : Nat) : Front :=
  match firstPlaneText? edition row col with
  | some chars => .text chars 1
  | none => if jisAddedPlaces.contains (row, col) then .char '\ufffd' 1 else .fault

/-- What stands at the places of the shifted charsets: the rows of the first plane and then those of
the second. Two signs of the first plane have their narrow forms here. -/
def shiftedPlanes (edition : JisEdition) (row col : Nat) : Front :=
  if (row, col) = (0, 31) then .char '\\' 1
  else if (row, col) = (1, 17) then .char '~' 1
  else if row < 94 then firstPlaneFront edition row col
  else match jisSecondPlaneNumbers[row - 94]? with
    | some row => .ofCell 1 (editionCell? edition row col)
    | none => .fault

/-- The character of a byte below 128 in the Japanese variant of ASCII. -/
def romanChar (n : Nat) : Char := if n = 0x5C then '¥' else if n = 0x7E then '‾' else Char.ofNat n

/-- Reads bytes in the shifted charset of an edition. -/
def decodeShiftedPlanes (edition : JisEdition) : Bytes → List Char :=
  decodeFronts (fun b rest =>
    if b < 0x80 then .char (romanChar b.toNat) 0 else shiftedFront (shiftedPlanes edition) b rest) 0

/-- What begins at a byte of the form of EUC-JP with both planes; the supplement stands at places
that the second plane leaves empty. -/
def eucPlanesFront (edition : JisEdition) : UInt8 → Bytes → Front :=
  eucJapaneseFront
    (fun a b => if 0xA1 ≤ a ∧ 0xA1 ≤ b then firstPlaneFront edition (a - 0xA1) (b - 0xA1) else .fault)
    (fun a b => (inSquare? (editionCell? edition) a b).or (squareCell? jisSupplementRows a b))

/-! ## Chinese -/

/-- The number of a pair's column, for second bytes from 0x40 to 0xFE without 0x7F. -/
def gbkColumn? (b : Nat) : Option Nat :=
  if b < 0x40 ∨ b = 0x7F ∨ 0xFE < b then none
  else some (if b < 0x7F then b - 0x40 else b - 0x41)

/-- The character of a pair of GBK. -/
def gbkCell? (a b : Nat) : Option Char :=
  if a < 0x81 then none else (gbkColumn? b).bind fun col => cell? gbkRows (a - 0x81) col

/-- The pairs that GBK has and GB 2312 has not. -/
def gbkOnly : CodeRanges := .ofHex "a2a1-a2aa a6e0-a6eb a6ee-a6f2 a6f4-a6f5 a8bb a8bd-a8be a8c0"

/-- The character of a pair of GB 2312, a square within GBK in which two signs differ. -/
def gb2312Cell? (a b : Nat) : Option Char :=
  if a < 0xA1 ∨ 0xF7 < a ∨ b < 0xA1 ∨ gbkOnly.contains (256 * a + b) then none
  else if a = 0xA1 ∧ b = 0xA4 then some '・'
  else if a = 0xA1 ∧ b = 0xAA then some '―'
  else gbkCell? a b

/-- A run of numbers that stand for a run of code points. -/
structure CodeRun where
  first : Nat
  code : Nat
  length : Nat

/-- Reads a run: its first number, the code point that it stands for, and its length. -/
def CodeRun.ofText (text : List Char) : CodeRun :=
  let rest := (text.dropWhile (· != '=')).tail
  { first := hexValue (text.takeWhile (· != '=')), code := hexValue (rest.takeWhile (· != '*')),
    length := hexValue (rest.dropWhile (· != '*')).tail }

/-- Reads runs with blanks between them. -/
def CodeRun.listOfText (text : String) : List CodeRun :=
  (splitOn ' ' text.toList).map CodeRun.ofText

/-- The places at which GB 18030 differs from GBK. -/
def gbPairs : List CodeRun := CodeRun.listOfText gbPairRuns

/-- The code points that GB 18030 writes in four bytes. -/
def gbQuads : List CodeRun := CodeRun.listOfText gbQuadRuns

/-- The character of a number. -/
def runChar? (runs : List CodeRun) (n : Nat) : Option Char :=
  (runs.find? fun r => r.first ≤ n ∧ n < r.first + r.length).map fun r =>
    Char.ofNat (r.code + (n - r.first))

/-- The character of a pair of GB 18030. -/
def gb18030Cell? (a b : Nat) : Option Char :=
  if a < 0x81 then none
  else
    ((gbkColumn? b).bind fun col =>
      runChar? gbPairs ((a - 0x81) * 190 + col)).or (gbkCell? a b)

/-- The character of the number that four bytes of GB 18030 spell: those from 189000 on are the code
points from U+10000 on. -/
def gbQuadChar? (n : Nat) : Option Char :=
  if 189000 ≤ n then
    let code := 0x10000 + (n - 189000)
    if code ≤ 0x10FFFF then some (Char.ofNat code) else none
  else runChar? gbQuads n

/-- What begins at a byte of GB 18030: four bytes if the second is a digit, else two. -/
def gb18030Front (a : UInt8) (rest : Bytes) : Front :=
  let isDigit (x : UInt8) : Bool := 0x30 ≤ x && x ≤ 0x39
  let isLead (x : UInt8) : Bool := 0x81 ≤ x && x ≤ 0xFE
  match rest with
  | [] => .cut
  | b :: more =>
    if isDigit b then
      match more with
      | c :: d :: _ =>
        if isLead a && isLead c && isDigit d then
          .ofCell 3 (gbQuadChar? ((((a.toNat - 0x81) * 10 + (b.toNat - 0x30)) * 126
            + (c.toNat - 0x81)) * 10 + (d.toNat - 0x30)))
        else .fault
      | _ => .cut
    else .ofCell 1 (gb18030Cell? a.toNat b.toNat)

/-- The column of a row of Big5 for a second byte. -/
def bigFiveColumn? (b : Nat) : Option Nat :=
  if 0x40 ≤ b ∧ b ≤ 0x7E then some (b - 0x40)
  else if 0xA1 ≤ b ∧ b ≤ 0xFE then some (b - 0xA1 + 63)
  else none

/-- The character of a pair of Big5. -/
def bigFiveCell? (a b : Nat) : Option Char :=
  if a < 0xA1 then none else (bigFiveColumn? b).bind fun col => cell? bigFiveRows (a - 0xA1) col

/-- The pairs of Big5 that vendors add, or that stand for other characters with them. -/
def bigFiveChanges : List (Nat × Char) :=
  [(0xA145, '‧'), (0xA14E, '﹑'), (0xA1C2, '¯'), (0xA1E3, '～'), (0xA1F2, '⊕'), (0xA1F3, '⊙'),
    (0xA241, '∕'), (0xA242, '﹨'), (0xA244, '￥'), (0xA246, '￠'), (0xA247, '￡'), (0xA3E1, '€')]

/-- The character of a pair of Big5 as vendors have it. -/
def bigFiveVendorCell? (a b : Nat) : Option Char :=
  if let some c := bigFiveChanges.lookup (256 * a + b) then some c
  else if a = 0xF9 ∧ 0xD6 ≤ b then cell? bigFiveLastRow 0 (b - 0xD6)
  else bigFiveCell? a b

/-- The pairs of the Hong Kong supplement for a letter with a mark behind it. -/
def supplementMarkedLetters : List (Nat × List Char) :=
  [(0x8862, ['Ê', '\u0304']), (0x8864, ['Ê', '\u030c']), (0x88A3, ['ê', '\u0304']),
    (0x88A5, ['ê', '\u030c'])]

/-- The character that the Hong Kong supplement has for a pair. -/
def supplementCell? (a b : Nat) : Option Char :=
  (bigFiveColumn? b).bind fun col =>
    if 0x87 ≤ a ∧ a ≤ 0xA0 then cell? supplementLowRows (a - 0x87) col
    else if 0xC6 ≤ a ∧ a ≤ 0xC8 then cell? supplementMiddleRows (a - 0xC6) col
    else if 0xF9 ≤ a then cell? supplementHighRows (a - 0xF9) col
    else none

/-- What a pair stands for in Big5 with the Hong Kong supplement, which from 0xC6A1 to the first
byte 0xC8 does not keep to Big5. -/
def supplementedFront (a b : Nat) : Front :=
  if let some chars := supplementMarkedLetters.lookup (256 * a + b) then .text chars 1
  else
    let isReplaced := decide (0xC6A1 ≤ 256 * a + b ∧ a ≤ 0xC8)
    .ofCell 1 ((if isReplaced then none else bigFiveCell? a b).or (supplementCell? a b))

/-! ## Korean -/

/-- The character of a pair of the unified Hangul code. -/
def hangulCell? (a b : Nat) : Option Char :=
  let col? : Option Nat :=
    if 0x41 ≤ b ∧ b ≤ 0x5A then some (b - 0x41)
    else if 0x61 ≤ b ∧ b ≤ 0x7A then some (b - 0x61 + 26)
    else if 0x81 ≤ b then some (b - 0x81 + 52)
    else none
  if a < 0x81 then none else col?.bind fun col => cell? hangulRows (a - 0x81) col

/-- The places of the letters that open a syllable, by the second byte from 0xA1 on. -/
def leadingLetters : List (Option Nat) :=
  [some 0, some 1, none, some 2, none, none, some 3, some 4, some 5, none, none, none, none, none,
    none, none, some 6, some 7, some 8, none, some 9, some 10, some 11, some 12, some 13, some 14,
    some 15, some 16, some 17, some 18]

/-- The places of the letters that close a syllable, by the second byte from 0xA1 on. -/
def trailingLetters : List (Option Nat) :=
  [some 1, some 2, some 3, some 4, some 5, some 6, some 7, none, some 8, some 9, some 10, some 11,
    some 12, some 13, some 14, some 15, some 16, some 17, none, some 18, some 19, some 20, some 21,
    some 22, none, some 23, some 24, some 25, some 26, some 27]

/-- The letter of a byte in a table of letters. -/
def letterAt? (letters : List (Option Nat)) (b : UInt8) : Option Nat :=
  if 0xA1 ≤ b then (letters[b.toNat - 0xA1]?).getD none else none

/-- The byte that stands for no letter in a syllable that is spelled out. -/
def hangulFiller : UInt8 := 0xD4

/-- The syllable of its three letters, each given by the second byte of its pair. -/
def spelledSyllable? (first middle last : UInt8) : Option Char := do
  let cho ← letterAt? leadingLetters first
  let jung ← if 0xBF ≤ middle ∧ middle ≤ 0xD3 then some (middle.toNat - 0xBF) else none
  let jong ← if last = hangulFiller then some 0 else letterAt? trailingLetters last
  return Char.ofNat (0xAC00 + (cho * 21 + jung) * 28 + jong)

/-- What begins at a byte of EUC-KR: a syllable that is spelled out after a filler, or a pair. -/
def eucKoreanFront (a : UInt8) (rest : Bytes) : Front :=
  match rest with
  | [] => .cut
  | b :: more =>
    if a = 0xA4 ∧ b = hangulFiller then
      match more with
      | x :: first :: y :: middle :: z :: last :: _ =>
        if x = 0xA4 ∧ y = 0xA4 ∧ z = 0xA4 then .ofCell 7 (spelledSyllable? first middle last)
        else .fault
      | _ => .cut
    else if 0xA1 ≤ a ∧ 0xA1 ≤ b then .ofCell 1 (hangulCell? a.toNat b.toNat)
    else .fault

/-- A letter of a syllable in five bits: `none` is no letter, and `some none` stands for a missing
one. -/
abbrev SyllableSlot := Option (Option Nat)

/-- The letter that opens a syllable. -/
def leadingSlot (bits : Nat) : SyllableSlot :=
  if bits = 1 then some none else if 2 ≤ bits ∧ bits ≤ 20 then some (some (bits - 2)) else none

/-- The vowel of a syllable: the bits go in groups of six with two that are not used between
them. -/
def vowelSlot (bits : Nat) : SyllableSlot :=
  if bits = 2 then some none
  else if bits % 8 < 2 ∨ bits = 30 ∨ bits = 31 then none
  else some (some (bits - 3 - 2 * (bits / 8)))

/-- The letter that closes a syllable. -/
def trailingSlot (bits : Nat) : SyllableSlot :=
  if bits = 1 then some none
  else if 2 ≤ bits ∧ bits ≤ 17 then some (some (bits - 1))
  else if 19 ≤ bits ∧ bits ≤ 29 then some (some (bits - 2))
  else none

/-- The code point of the first letter that stands alone. -/
def firstLetter : Nat := 0x3131

/-- The letter that stands alone for a place among those that open or close a syllable. -/
def loneLetter? (letters : List (Option Nat)) (place : Nat) : Option Char :=
  (letters.idxOf? (some place)).map fun n => Char.ofNat (firstLetter + n)

/-- The character of the three letters of a syllable, of which some may be missing. -/
def slottedChar? (leading vowel trailing : SyllableSlot) : Option Char := do
  match ← leading, ← vowel, ← trailing with
  | none, none, none => some '\u3000'
  | none, none, some t => loneLetter? trailingLetters t
  | none, some v, none => some (Char.ofNat (0x314F + v))
  | some l, none, none => loneLetter? leadingLetters l
  | some l, some v, t => some (Char.ofNat (0xAC00 + (l * 21 + v) * 28 + t.getD 0))
  | _, _, _ => none

/-- The character of a pair of Johab that is no syllable: two rows of the national set for each
first byte. The letters of that set are left to the syllables. -/
def johabSign? (a b : Nat) : Option Char :=
  if a = 0xD8 ∨ a = 0xDF ∨ 0xF9 < a ∨ b < 0x31 ∨ (0x80 ≤ b ∧ b < 0x91) ∨ b % 0x80 = 0x7F
      ∨ (a = 0xDA ∧ 0xA1 ≤ b ∧ b ≤ 0xD3) then none
  else
    let row := if a < 0xE0 then 2 * (a - 0xD9) else 2 * a - 0x197
    let col := if b < 0x91 then b - 0x31 else b - 0x43
    if col < 94 then hangulCell? (row + 0xA1) (col + 0xA1)
    else hangulCell? (row + 0xA2) (col - 94 + 0xA1)

/-- The character of a pair of Johab: below 0xD8 the three letters of a syllable, with five bits
each. -/
def johabCell? (a b : Nat) : Option Char :=
  if a < 0xD8 then
    slottedChar? (leadingSlot (a / 4 % 32)) (vowelSlot ((a * 8 + b / 32) % 32)) (trailingSlot (b % 32))
  else johabSign? a b

/-- The East Asian charsets by name. -/
def multibyteDecoders : List (String × (Bytes → List Char)) :=
  [("shift_jis", decodeBeyondAscii shiftedJisFront), ("cp932", decodeBeyondAscii vendorFront),
    ("shift_jisx0213", decodeShiftedPlanes .of2000), ("shift_jis_2004", decodeShiftedPlanes .of2004),
    ("euc_jp", decodeBeyondAscii (eucJapaneseFront (fun a b => .ofCell 1 (squareCell? jisRows a b))
      (squareCell? jisSupplementRows))),
    ("euc_jisx0213", decodeBeyondAscii (eucPlanesFront .of2000)),
    ("euc_jis_2004", decodeBeyondAscii (eucPlanesFront .of2004)),
    ("gb2312", decodeBeyondAscii (pairFront gb2312Cell?)),
    ("gbk", decodeBeyondAscii (pairFront gbkCell?)), ("gb18030", decodeBeyondAscii gb18030Front),
    ("big5", decodeBeyondAscii (pairFront bigFiveCell?)),
    ("cp950", decodeBeyondAscii (pairFront bigFiveVendorCell?)),
    ("big5hkscs", decodeBeyondAscii (pairOf supplementedFront)),
    ("euc_kr", decodeBeyondAscii eucKoreanFront), ("cp949", decodeBeyondAscii (pairFront hangulCell?)),
    ("johab", decodeBeyondAscii (pairFront johabCell?))]

end HttpCourier.Charset
