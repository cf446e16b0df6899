import HttpCourier.Bytes.Utf8
import HttpCourier.Config.Verdict

/-!
# Reading single values

Texts, switches and numbers are read with some leniency: a number may be written as a text, a switch
as a number or a word. Each reader gives a verdict on one value of the configuration.
-/

namespace HttpCourier.Config

open Text

/-- The text of a value that is a text or bytes that encode one; for other bytes, and for texts with
surrogates, nothing inside. -/
def wordsOf? : Data → Option (Option (List Char))
  | .text s => some (some s.toList)
  | .torn _ => some none
  | .bytes b =>
    match Utf8.decode b with
    | .ok s => some (some s)
    | .error _ => some none
  | _ => none

/-- White space; the information separators do not count. -/
def isWhiteSpace (c : Char) : Bool := isBlank c && !decide (28 ≤ c.toNat ∧ c.toNat ≤ 31)

/-- Drops white space at both ends. -/
def trimSpace (s : List Char) : List Char :=
  ((s.dropWhile isWhiteSpace).reverse.dropWhile isWhiteSpace).reverse

/-- The issue of a text that cannot be encoded. -/
def notUnicode : Issue where
  kind := "string_unicode"
  message := "Input should be a valid string, unable to parse raw data as a unicode string"

/-- Reads a text. -/
def readText (d : Data) : Verdict String :=
  match wordsOf? d with
  | some (some s) => .accepted (String.ofList s)
  | some none => .rejected [notUnicode]
  | none => .issue "string_type" "Input should be a valid string"

/-- Reads a text that may have surrogates. -/
def readLoose : Data → Verdict LooseText
  | .torn t => .accepted (.torn t)
  | d => (readText d).map .whole

/-- Reads a text, with a replacement for each surrogate. -/
def readShown (d : Data) : Verdict String := (readLoose d).map LooseText.shown

/-- Reads a text that is not empty. -/
def readFullText (d : Data) : Verdict String :=
  (readText d).andThen fun s =>
    if s.isEmpty then .issue "string_too_short" "String should have at least 1 character"
    else .accepted s

/-- Reads nothing, or a value. -/
def readOptional {α : Type} (read : Data → Verdict α) : Data → Verdict (Option α)
  | .null => .accepted none
  | d => (read d).map some

/-- The words for off and on. -/
def switchWord? (s : List Char) : Option Bool :=
  let word := String.ofList (s.map Char.toLower)
  if ["0", "off", "f", "false", "n", "no"].contains word then some false
  else if ["1", "on", "t", "true", "y", "yes"].contains word then some true
  else none

/-- A number as a switch. -/
def switchNumber? (n : Int) : Option Bool :=
  if n = 0 then some false else if n = 1 then some true else none

/-- A switch that cannot be read. -/
def unreadableSwitch : Verdict Bool :=
  .issue "bool_parsing" "Input should be a valid boolean, unable to interpret input"

/-- Reads a switch. -/
def readSwitch (d : Data) : Verdict Bool :=
  match d, wordsOf? d with
  | .flag b, _ => .accepted b
  | .torn _, _ => .rejected [notUnicode]
  | _, some words => ((words.bind switchWord?).map .accepted).getD unreadableSwitch
  | .whole n, _ => ((switchNumber? n).map .accepted).getD unreadableSwitch
  | .real x, _ =>
    match x.isWhole, x.truncate? with
    | true, some n => ((switchNumber? n).map .accepted).getD unreadableSwitch
    | _, _ => .issue "bool_type" "Input should be a valid boolean"
  | _, none => .issue "bool_type" "Input should be a valid boolean"

/-- Drops the zeros in front of a numeral, and the underscores among them; `none` when it does not
start like a numeral. -/
def dropLeadingZeros? : List Char → Option (List Char)
  | '0' :: rest =>
    match rest.dropWhile fun c => c == '0' || c == '_' with
    | [] => some [rest.getLastD '0']
    | '.' :: more => some ((rest.takeWhile (· != '.')).getLastD '0' :: '.' :: more)
    | c :: more => if decide ('1' ≤ c ∧ c ≤ '9') then some (c :: more) else none
  | c :: rest => if c == '-' || decide ('1' ≤ c ∧ c ≤ '9') then some (c :: rest) else none
  | [] => none

/-- Drops a fraction of zeros. -/
def dropZeroFraction (s : List Char) : List Char :=
  match s.dropWhile (· != '.') with
  | [] => s
  | _ :: fraction => if fraction.all (· == '0') then s.takeWhile (· != '.') else s

/-- Whether two underscores stand side by side. -/
def hasDoubleUnderscore : List Char → Bool
  | '_' :: '_' :: _ => true
  | _ :: rest => hasDoubleUnderscore rest
  | [] => false

/-- Drops the underscores that stand one by one between other characters. -/
def dropUnderscores (s : List Char) : List Char :=
  if s.head? = some '_' ∨ s.getLast? = some '_' ∨ hasDoubleUnderscore s then s
  else s.filter (· != '_')

/-- An integer in its plain form: a minus sign or none, and digits without a zero in front. -/
def plainInt? (s : List Char) : Option Int :=
  let (negative, digits) := match s with
    | '-' :: rest => (true, rest)
    | _ => (false, s)
  if digits.isEmpty || !digits.all isAsciiDigit || (digits.length > 1 && digits.head? = some '0') then
    none
  else
    let n : Int := Number.ofDigits (digits.map fun c => c.toNat - 48)
    some (if negative then -n else n)

/-- The most digits that an integer may be written with. -/
def maxDigits : Nat := 4300

/-- Whether a text is an integer that is too long. -/
def isTooLong (s : List Char) : Bool :=
  let digits := if s.head? = some '-' then s.tail else s
  decide (digits.length > maxDigits) && digits.all isAsciiDigit

/-- The numeral of an integer in its plain form. -/
def cleanInt? (s : List Char) : Option (List Char) := do
  let s := match s with
    | '+' :: rest => rest
    | _ => s
  let s ← dropLeadingZeros? s
  return dropUnderscores (dropZeroFraction s)

/-- An integer too large to be read. -/
def oversizedInt : Verdict Int :=
  .issue "int_parsing_size" "Unable to parse input string as an integer, exceeded maximum size"

/-- An integer that is written as a text. -/
def readIntText (s : List Char) : Verdict Int :=
  let unreadable := Verdict.issue "int_parsing"
    "Input should be a valid integer, unable to parse string as an integer"
  let s := trimSpace s
  if isTooLong s then oversizedInt
  else match plainInt? s with
    | some n => .accepted n
    | none =>
      match cleanInt? s with
      | none => unreadable
      | some s =>
        if isTooLong s then oversizedInt
        else ((plainInt? s).map .accepted).getD unreadable

/-- The largest magnitude of a whole number that is written with a point. -/
def largestWhole : Nat := 9223372036854775808

/-- Reads an integer. -/
def readInt (d : Data) : Verdict Int :=
  match d, wordsOf? d with
  | .whole n, _ => .accepted n
  | .flag b, _ => .accepted (if b then 1 else 0)
  | .torn _, _ => .rejected [notUnicode]
  | _, some (some s) => readIntText s
  | _, some none =>
    .issue "int_parsing" "Input should be a valid integer, unable to parse string as an integer"
  | .real x, _ =>
    match x.truncate? with
    | none => .issue "finite_number" "Input should be a finite number"
    | some n =>
      if !x.isWhole then
        .issue "int_from_float" "Input should be a valid integer, got a number with a fractional part"
      else if decide (n.natAbs ≤ largestWhole) then .accepted n
      else oversizedInt
  | _, none => .issue "int_type" "Input should be a valid integer"

/-- A number that is written as a text. -/
def readRealText (s : List Char) : Verdict Binary64 :=
  let plain (s : List Char) : Option Binary64 :=
    if s.all (fun c => decide (c.toNat < 128) && c != '_' && !isWhiteSpace c) then
      Number.parseFloat? s else none
  match plain (trimSpace s) with
  | some x => .accepted x
  | none =>
    match plain (dropUnderscores s) with
    | some x => .accepted x
    | none =>
      .issue "float_parsing" "Input should be a valid number, unable to parse string as a number"

/-- Reads a number. -/
def readReal (d : Data) : Verdict Binary64 :=
  match d, wordsOf? d with
  | .real x, _ => .accepted x
  | .whole n, _ => .accepted (.ofInt n)
  | .flag b, _ => .accepted (.ofNat (if b then 1 else 0))
  | .torn _, _ => .rejected [notUnicode]
  | _, some (some s) => readRealText s
  | _, some none =>
    .issue "float_parsing" "Input should be a valid number, unable to parse string as a number"
  | _, none => .issue "float_type" "Input should be a valid number"

/-- An integer that is at least one. -/
def atLeastOne (n : Int) : Verdict Nat :=
  if n < 1 then .issue "greater_than_equal" "Input should be greater than or equal to 1"
  else .accepted n.toNat

/-- Reads an integer that is at least one. -/
def readPositive (d : Data) : Verdict Nat := (readInt d).andThen atLeastOne

/-- Reads the number of a port. -/
def readPort (d : Data) : Verdict Nat :=
  (readInt d).andThen fun n =>
    if n > 65535 then .issue "less_than_equal" "Input should be less than or equal to 65535"
    else atLeastOne n

/-- Reads a number of seconds, up to an hour. -/
def readTimeout (d : Data) : Verdict Binary64 :=
  (readReal d).andThen fun x =>
    if !x.le (.ofNat 3600) then .issue "less_than_equal" "Input should be less than or equal to 3600"
    else if !(Binary64.ofNat 0).lt x then .issue "greater_than" "Input should be greater than 0"
    else .accepted x

section

variable {α : Type} [DecidableEq α] (slash point : α)

/-- The segments of a path without empty ones and without single points. -/
def pathSegments (s : List α) : List (List α) :=
  (splitOn slash s).filter fun p => p ≠ [] ∧ p ≠ [point]

/-- A path in its plain form: the slashes between segments are single, and the path of the current
directory is a point. Two slashes in front of a path are kept. -/
def plainPathOf (s : List α) : List α :=
  let slashes := (s.takeWhile (· == slash)).length
  let root := if slashes = 0 then [] else if slashes = 2 then [slash, slash] else [slash]
  let path := root ++ [slash].intercalate (pathSegments slash point s)
  if path.isEmpty then [point] else path

end

/-- A path of characters in its plain form. -/
def plainPath (s : List Char) : List Char := plainPathOf '/' '.' s

/-- Reads a path. -/
def readPath : Data → Verdict LooseText
  | .text s => .accepted (.whole (String.ofList (plainPath s.toList)))
  | .torn t => .accepted (.ofPoints (plainPathOf (.char '/') (.char '.') t.points))
  | _ => .issue "path_type" "Input is not a valid path for <class 'pathlib.Path'>"

end HttpCourier.Config
