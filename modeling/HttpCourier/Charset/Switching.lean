import HttpCourier.Charset.Multibyte
import HttpCourier.Charset.Pages

/-!
# Charsets that switch between sets of characters

The bytes of such a charset are below 128, and a sequence of bytes calls up the set by which those
after it are read: escapes in the ISO 2022 family, tildes in HZ. A `Step` is what is read at a byte;
`decodeSteps` reads a byte string step by step. Bytes that cannot be read are replaced by U+FFFD,
and so is all that is left when the bytes end inside a step.
-/

namespace HttpCourier.Charset

open Text

/-- What is read at a byte: a text, the state after it, and how many bytes follow that belong to
it. -/
inductive Step (State : Type) where
  | read (text : List Char) (next : State) (more : Nat)
  /-- The bytes end inside a step. -/
  | cut

/-- Reads bytes step by step; `skip` bytes at the front belong to the step before. -/
def decodeSteps {State : Type} (step : State → UInt8 → Bytes → Step State) :
    State → (skip : Nat) → Bytes → List Char
  | _, _, [] => []
  | state, skip + 1, _ :: rest => decodeSteps step state skip rest
  | state, 0, b :: rest =>
    match step state b rest with
    | .read text next more => text ++ decodeSteps step next more rest
    | .cut => ['\ufffd']

/-- A table of pairs above 128, read by pairs below it. -/
def lowCell? {α : Type} (table : Nat → Nat → Option α) (a b : Nat) : Option α :=
  if 0x21 ≤ a ∧ a ≤ 0x7E ∧ 0x21 ≤ b ∧ b ≤ 0x7E then table (a + 0x80) (b + 0x80) else none

/-! ## ISO 2022 -/

/-- The sets that escapes call up. -/
inductive CodedSet where
  | ascii
  | roman
  | katakana
  | jis
  | jisSupplement
  | firstPlane (edition : JisEdition)
  | secondPlane
  | korean
  | chinese
  | latin
  | greek
  deriving DecidableEq

/-- How many bytes a character of a set takes. -/
def CodedSet.width : CodedSet → Nat
  | .jis | .jisSupplement | .firstPlane _ | .secondPlane | .korean | .chinese => 2
  | _ => 1

/-- The text at a place of the first plane in this family, which has the narrow form of a sign. -/
def escapedPlaneText? (edition : JisEdition) (row col : Nat) : Option (List Char) :=
  if (row, col) = (1, 17) then some ['~'] else firstPlaneText? edition row col

/-- The text of a byte, or of a pair, in a set. The two halves of larger alphabets have none here:
only a single shift reads them. -/
def CodedSet.text? (set : CodedSet) (a b : Nat) : Option (List Char) :=
  let char (c : Option Char) : Option (List Char) := c.map fun c => [c]
  match set with
  | .ascii => char (some (Char.ofNat a))
  | .roman => char (some (romanChar a))
  | .katakana => if 0x21 ≤ a ∧ a ≤ 0x5F then char (some (Char.ofNat (0xFF40 + a))) else none
  | .jis => char (lowCell? (squareCell? jisRows) a b)
  | .jisSupplement => char (lowCell? (squareCell? jisSupplementRows) a b)
  | .firstPlane edition => lowCell? (inSquare? (escapedPlaneText? edition)) a b
  | .secondPlane => char (lowCell? (inSquare? secondPlaneCell?) a b)
  | .korean => char (lowCell? hangulCell? a b)
  | .chinese => char (lowCell? gb2312Cell? a b)
  | .latin | .greek => none

/-- The last bytes of the escapes of the Japanese sets; the flag tells the sets of pairs. -/
def japaneseFinals : List ((Bool × Char) × CodedSet) :=
  [((true, 'B'), .jis), ((false, 'J'), .roman), ((true, '@'), .jis)]

/-- The last bytes of the escapes of the two planes, the first of which is told by its edition, and
of the pairs that they are added to. -/
def planeFinals (final : Char) (edition : JisEdition) : List ((Bool × Char) × CodedSet) :=
  [((true, 'B'), .jis), ((true, final), .firstPlane edition), ((true, 'P'), .secondPlane)]

/-- A charset of the family: the sets it has, which shifts, and whether it knows the mark that
announces a revised set. -/
structure Iso2022 where
  finals : List ((Bool × Char) × CodedSet)
  hasShifts : Bool := false
  hasSingleShift : Bool := false
  hasRevision : Bool := true

/-- The set that the last byte of an escape calls up; every charset has ASCII. -/
def Iso2022.set? (charset : Iso2022) (isPair : Bool) (final : Char) : Option CodedSet :=
  if isPair = false ∧ final = 'B' then some .ascii else charset.finals.lookup (isPair, final)

/-- The sets in the three places of a reader, whether the second place is in use, and whether the
bytes are those of a foreign escape. -/
structure Places where
  first : CodedSet := .ascii
  second : CodedSet := .ascii
  third : CodedSet := .ascii
  isShifted : Bool := false
  isForeign : Bool := false

/-- Whether a byte ends an escape. -/
def isEscapeEnd (c : Char) : Bool := decide ('@' ≤ c ∧ c ≤ 'Z')

/-- Puts a set into the place that a byte of the escape names. -/
def Iso2022.place? (charset : Iso2022) (places : Places) (mark : Char) (set : CodedSet) : Option Places :=
  if mark = '(' then some { places with first := set }
  else if mark = ')' then some { places with second := set }
  else if mark = '.' && charset.hasSingleShift && decide (set.width = 1) then
    some { places with third := set }
  else none

/-- The places after an escape, given by its characters. -/
def Iso2022.afterEscape? (charset : Iso2022) (places : Places) : List Char → Option Places
  | ['$', final] => (charset.set? true final).map fun set => { places with first := set }
  | [mark, final] => (charset.set? false final).bind (charset.place? places mark)
  | ['$', mark, final] =>
    if mark = '.' then none else (charset.set? true final).bind (charset.place? places mark)
  | [_, _, '\x1b', '$', 'B'] => if charset.hasRevision then some { places with first := .jis } else none
  | _ => none

/-- How many characters an escape has after its first byte: `some 0` when it does not end within
fifteen, `none` when the bytes end first. A mark of revision, `&@`, and the byte after it do not end
an escape. -/
def Iso2022.escapeLength? (charset : Iso2022) : (budget skip : Nat) → List Char → Option Nat
  | 0, _, _ => some 0
  | budget + 1, skip + 1, s => charset.escapeLength? budget skip s.tail
  | _ + 1, 0, [] => none
  | budget + 1, 0, c :: rest =>
    if isEscapeEnd c then some (15 - budget)
    else
      let isMark := charset.hasRevision && c = '&' && rest.head? = some '@'
      charset.escapeLength? budget (if isMark then 2 else 0) rest

/-- Reads an escape whose characters after the first byte are at the front of `rest`. -/
def Iso2022.escape (charset : Iso2022) (places : Places) (rest : List Char) : Step Places :=
  match charset.escapeLength? 15 0 rest with
  | none => .cut
  | some length =>
    match charset.afterEscape? places (rest.take length) with
    | some next => .read [] next length
    | none => .read ['\ufffd'] places length

/-- The character that a single shift reads from the other half of a set. -/
def singleShift? (set : CodedSet) (b : UInt8) : Option Char :=
  match set with
  | .greek =>
    match (pageRuns? "iso8859-7").map fun runs => pageChar runs (b ^^^ 0x80) with
    | some '\ufffd' => none
    | c => c
  | .latin => if 0x80 ≤ b then none else some (Char.ofNat (b.toNat + 0x80))
  | _ => if 0x80 ≤ b then none else some (Char.ofNat b.toNat)

/-- Reads a byte by the set in use. -/
def readBySet (places : Places) (b : UInt8) (rest : Bytes) : Step Places :=
  let set := if places.isShifted then places.second else places.first
  if rest.length + 1 < set.width then .cut
  else
    .read ((set.text? b.toNat (rest.headD 0).toNat).getD ['\ufffd']) places (set.width - 1)

/-- Reads what stands at a byte. A line feed ends a shift; an escape of another kind is text up to
the letter that ends it. -/
def Iso2022.step (charset : Iso2022) (places : Places) (b : UInt8) (rest : Bytes) : Step Places :=
  let c := Char.ofNat b.toNat
  if places.isForeign then .read [c] { places with isForeign := !isEscapeEnd c } 0
  else if b = 0x1B then
    match rest with
    | [] => .cut
    | e :: more =>
      let kind := Char.ofNat e.toNat
      if ['(', ')', '$', '.', '&'].contains kind then
        charset.escape places ((rest.take 15).map fun b => Char.ofNat b.toNat)
      else if kind = 'N' && charset.hasSingleShift then
        match more with
        | [] => .cut
        | x :: _ => .read [(singleShift? places.third x).getD '\ufffd'] places 2
      else .read [c] { places with isForeign := true } 0
  else if b = 0x0F && charset.hasShifts then .read [] { places with isShifted := false } 0
  else if b = 0x0E && charset.hasShifts then .read [] { places with isShifted := true } 0
  else if b = 0x0A then .read [c] { places with isShifted := false } 0
  else if b < 0x20 then .read [c] places 0
  else if 0x80 ≤ b then .read ['\ufffd'] places 0
  else readBySet places b rest

/-- Reads bytes in a charset of the family. -/
def Iso2022.decode (charset : Iso2022) : Bytes → List Char := decodeSteps charset.step {} 0

/-! ## HZ -/

/-- Reads what stands at a byte of HZ; `isPair` tells whether pairs are being read. -/
def hzStep (isPair : Bool) (a : UInt8) (rest : Bytes) : Step Bool :=
  if a = 0x7E then
    match rest with
    | [] => .cut
    | b :: _ =>
      if b = 0x7E && !isPair then .read ['~'] isPair 1
      else if b = 0x7B && !isPair then .read [] true 1
      else if b = 0x0A && !isPair then .read [] isPair 1
      else if b = 0x7D && isPair then .read [] false 1
      else .read ['\ufffd'] isPair 0
  else if 0x80 ≤ a then .read ['\ufffd'] isPair 0
  else if !isPair then .read [Char.ofNat a.toNat] isPair 0
  else
    match rest with
    | [] => .cut
    | b :: _ =>
      match lowCell? gb2312Cell? a.toNat b.toNat with
      | some c => .read [c] isPair 1
      | none => .read ['\ufffd'] isPair 0

/-- The charsets that switch, by name. -/
def switchingDecoders : List (String × (Bytes → List Char)) :=
  let supplement : (Bool × Char) × CodedSet := ((true, 'D'), .jisSupplement)
  [("iso2022_jp", Iso2022.decode { finals := japaneseFinals }),
    ("iso2022_jp_1", Iso2022.decode { finals := supplement :: japaneseFinals }),
    ("iso2022_jp_2", Iso2022.decode {
      finals := supplement :: ((true, 'C'), .korean) :: ((true, 'A'), .chinese)
        :: ((false, 'A'), .latin) :: ((false, 'F'), .greek) :: japaneseFinals,
      hasSingleShift := true }),
    ("iso2022_jp_3", Iso2022.decode { finals := planeFinals 'O' .of2000 }),
    ("iso2022_jp_2004", Iso2022.decode { finals := planeFinals 'Q' .of2004 }),
    ("iso2022_jp_ext", Iso2022.decode {
      finals := supplement :: ((false, 'I'), .katakana) :: japaneseFinals }),
    ("iso2022_kr", Iso2022.decode { finals := [((true, 'C'), .korean)], hasShifts := true, hasRevision := false }),
    ("hz", decodeSteps hzStep false 0)]

end HttpCourier.Charset
