import HttpCourier.Yaml.Moment

/-!
# Tags

A tag names the type of a node. A plain scalar without a tag is of the first type whose pattern it
matches: a switch, a real or whole number, a merge key, nothing, a date, a default key, or else a
text.
-/

namespace HttpCourier.Yaml.Tag

/-- The address of a known type. -/
def known (name : String) : String := "tag:yaml.org,2002:" ++ name

def text : String := known "str"
def switch : String := known "bool"
def whole : String := known "int"
def real : String := known "float"
def null : String := known "null"
def timestamp : String := known "timestamp"
def merge : String := known "merge"
def defaultKey : String := known "value"
def sequence : String := known "seq"
def mapping : String := known "map"

/-- The words of switches. -/
def switchWords : List (String × Bool) :=
  [("yes", true), ("no", false), ("true", true), ("false", false), ("on", true), ("off", false)]

/-- Whether a text is a word in small letters, with a capital, or in capitals. -/
def isWord (s : List Char) (word : String) : Bool :=
  let w := word.toList
  s == w || s == w.map Char.toUpper || s == (w.take 1).map Char.toUpper ++ w.drop 1

/-- Whether a text is a switch. -/
def isSwitch (s : List Char) : Bool := switchWords.any fun w => isWord s w.1

/-- Whether a text stands for nothing. -/
def isNull (s : List Char) : Bool := s.isEmpty || s == ['~'] || isWord s "null"

/-- Drops a sign. -/
def dropSign : List Char → List Char
  | '+' :: rest => rest
  | '-' :: rest => rest
  | s => s

/-- Digits and underscores. -/
def isDigitOrGap (c : Char) : Bool := c.isDigit || c == '_'

/-- Whether a text is a part below sixty, of one or two digits. -/
def isSixtieth : List Char → Bool
  | [d] => d.isDigit
  | [a, b] => decide ('0' ≤ a ∧ a ≤ '5') && b.isDigit
  | _ => false

/-- Whether a text consists of parts below sixty, each with a colon in front, and at least one. -/
def areSixtieths (s : List Char) : Bool :=
  match s with
  | ':' :: rest =>
    let part := rest.takeWhile (· ≠ ':')
    let more := rest.drop part.length
    isSixtieth part && (more.isEmpty || areSixtieths more)
  | _ => false
termination_by s.length
decreasing_by simp only [List.length_cons, List.length_drop]; omega

/-- Whether a text is a whole number without a sign. -/
def isUnsignedWhole (s : List Char) : Bool :=
  match s with
  | ['0'] => true
  | '0' :: 'b' :: rest => !rest.isEmpty && rest.all fun c => c == '0' || c == '1' || c == '_'
  | '0' :: 'x' :: rest =>
    !rest.isEmpty && rest.all fun c =>
      c.isDigit || c == '_' || decide ('a' ≤ c ∧ c ≤ 'f') || decide ('A' ≤ c ∧ c ≤ 'F')
  | '0' :: rest => !rest.isEmpty && rest.all fun c => decide ('0' ≤ c ∧ c ≤ '7') || c == '_'
  | c :: rest =>
    let more := rest.dropWhile isDigitOrGap
    c.isDigit && (more.isEmpty || areSixtieths more)
  | [] => false

/-- Whether a text is a whole number. -/
def isWhole (s : List Char) : Bool := isUnsignedWhole (dropSign s)

/-- Whether a text is an exponent with a sign, or empty. -/
def isExponent : List Char → Bool
  | [] => true
  | e :: sign :: digits =>
    (e == 'e' || e == 'E') && (sign == '+' || sign == '-') && !digits.isEmpty && digits.all Char.isDigit
  | _ => false

/-- Whether a text is a point with digits and an exponent behind it; `digits` says whether there
must be one. -/
def isFraction (digits : Bool) : List Char → Bool
  | '.' :: rest =>
    (!digits || rest.head?.any Char.isDigit) && isExponent (rest.dropWhile isDigitOrGap)
  | _ => false

/-- Whether a text is parts below sixty with a point at the end. -/
def isSixtiethsFraction (s : List Char) : Bool :=
  let parts := s.takeWhile (· ≠ '.')
  match s.drop parts.length with
  | '.' :: rest => areSixtieths parts && rest.all isDigitOrGap
  | _ => false

/-- Whether a text is a real number without a sign. -/
def isUnsignedReal (s : List Char) : Bool :=
  match s with
  | '.' :: word => isWord word "inf" && word != "iNF".toList
  | c :: rest =>
    let more := rest.dropWhile isDigitOrGap
    c.isDigit && (isFraction false more || isSixtiethsFraction more)
  | [] => false

/-- Whether a text is a real number. -/
def isReal (s : List Char) : Bool :=
  isUnsignedReal (dropSign s) || isFraction true s
    || [".nan", ".NaN", ".NAN"].any fun w => s == w.toList

/-- A text without the line feed at its end, which patterns pass over. -/
def dropFinalBreak (s : List Char) : List Char :=
  if s.length > 1 && s.getLast? == some '\n' then s.dropLast else s

/-- The type of a plain scalar, or of another that is to be read like one. -/
def ofPlain (text : List Char) : String :=
  let s := dropFinalBreak text
  if isSwitch s then switch
  else if isReal s then real
  else if isWhole s then whole
  else if s == "<<".toList then merge
  else if isNull s then null
  else if (Moment.ofText? s).isSome then timestamp
  else if s == ['='] then defaultKey
  else Tag.text

end HttpCourier.Yaml.Tag
