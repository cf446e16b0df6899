import HttpCourier.Bytes.Utf8
import HttpCourier.Header.Basic
import HttpCourier.Text.Quoted

/-!
# Header fields on the wire

A message carries its header fields as bytes (`Fields`). They are read as text in one encoding for
the whole message: ASCII if everything fits, else UTF-8, else one character per byte. Names are
compared without regard to the case of ASCII letters.
-/

namespace HttpCourier

/-- How the fields of a message are read as text. -/
inductive TextEncoding where
  | ascii
  | utf8
  | latin1
  deriving DecidableEq, Repr

/-- A run of characters that ASCII does not have: its place in a text. -/
structure NotAscii where
  first : Nat
  last : Nat
  char : Char
  deriving DecidableEq, Repr

/-- The words for characters that ASCII does not have. -/
def NotAscii.message (e : NotAscii) : String :=
  if e.first = e.last then
    "'ascii' codec can't encode character '" ++ String.ofList (Text.escapeCode e.char) ++ "' in position "
      ++ toString e.first ++ ": ordinal not in range(128)"
  else
    "'ascii' codec can't encode characters in position " ++ toString e.first ++ "-"
      ++ toString e.last ++ ": ordinal not in range(128)"

/-- The bytes of an ASCII text, or the first run of other characters in it. -/
def encodeAscii (s : List Char) : Except NotAscii Bytes :=
  let isOther (c : Char) := decide (128 ≤ c.toNat)
  let before := s.takeWhile fun c => !isOther c
  match s.drop before.length with
  | [] => .ok (s.map fun c => UInt8.ofNat c.toNat)
  | c :: rest =>
    .error {
      first := before.length, last := before.length + (rest.takeWhile isOther).length, char := c }

/-- The bytes of a text in an encoding; only UTF-8 has every character. -/
def TextEncoding.encode (e : TextEncoding) (s : List Char) : Except NotAscii Bytes :=
  match e with
  | .ascii => encodeAscii s
  | .utf8 => .ok (Bytes.ofChars s)
  | .latin1 => .ok (s.map fun c => UInt8.ofNat c.toNat)

/-- The text of bytes in an encoding. -/
def TextEncoding.decode (e : TextEncoding) (bytes : Bytes) : String :=
  match e with
  | .ascii | .latin1 => String.ofList (Bytes.latin1 bytes)
  | .utf8 => String.ofList (Utf8.decodeReplacing bytes)

/-- Names and values of header fields as they are sent. -/
abbrev Fields := List (Bytes × Bytes)

namespace Fields

/-- The encoding that fits all names and values. -/
def encoding (fields : Fields) : TextEncoding :=
  if fields.all fun f => Bytes.isAscii f.1 && Bytes.isAscii f.2 then .ascii
  else if fields.all fun f => Utf8.isValid f.1 && Utf8.isValid f.2 then .utf8
  else .latin1

/-- The bytes of a name that is written in ASCII, in small letters. -/
def nameBytes (name : String) : Bytes := Bytes.toLower (Bytes.ofString name)

/-- Whether a field has a name. -/
def isNamed (name : String) (field : Bytes × Bytes) : Bool :=
  Bytes.toLower field.1 == nameBytes name

/-- The values of a name. -/
def valuesOf (fields : Fields) (name : String) : List Bytes :=
  (fields.filter (isNamed name)).map Prod.snd

/-- Whether a name occurs. -/
def has (fields : Fields) (name : String) : Bool := fields.any (isNamed name)

/-- The values of a name as texts. -/
def textsOf (fields : Fields) (name : String) : List String :=
  (fields.valuesOf name).map fields.encoding.decode

/-- The values of a name as one text, with commas between them. -/
def text? (fields : Fields) (name : String) : Option String :=
  match fields.textsOf name with
  | [] => none
  | values => some (", ".intercalate values)

/-- The fields without those of a name. -/
def without (fields : Fields) (name : String) : Fields := fields.filter fun f => !isNamed name f

/-- Drops the fields of a name; the first of them gives way to a new field. -/
def replaceFirst (name : Bytes) (value : Bytes) : Fields → Fields
  | [] => []
  | f :: rest =>
    if Bytes.toLower f.1 == Bytes.toLower name then
      (name, value) :: rest.filter fun g => Bytes.toLower g.1 != Bytes.toLower name
    else f :: replaceFirst name value rest

/-- Writes a field in the place of the first of its name, or at the end. -/
def put (fields : Fields) (name value : Bytes) : Fields :=
  if fields.any fun f => Bytes.toLower f.1 == Bytes.toLower name then
    replaceFirst name value fields
  else fields ++ [(name, value)]

/-- Writes a field of ASCII texts. -/
def putText (fields : Fields) (name value : String) : Fields :=
  fields.put (Bytes.ofString name) (Bytes.ofString value)

/-- Writes a field in the encoding in which the fields are read. -/
def putEncoded (fields : Fields) (name value : String) : Except NotAscii Fields := do
  let value ← fields.encoding.encode value.toList
  return fields.put (Bytes.ofString name) value

/-- Writes a field at the end unless its name occurs. -/
def putNew (fields : Fields) (name value : String) : Fields :=
  if fields.has name then fields else fields ++ [(Bytes.ofString name, Bytes.ofString value)]

/-- The fields as texts. -/
def texts (fields : Fields) : Headers :=
  fields.map fun f => (fields.encoding.decode f.1, fields.encoding.decode f.2)

/-- The fields of texts; the first text that is not ASCII is an error, names before values. -/
def ofHeaders (headers : Headers) : Except NotAscii Fields :=
  headers.mapM fun (name, value) => do
    let name ← encodeAscii name.toList
    let value ← encodeAscii value.toList
    return (name, value)

end Fields

end HttpCourier
