import HttpCourier.Charset.Multibyte
import HttpCourier.Charset.Pages
import HttpCourier.Charset.Punycode
import HttpCourier.Charset.Registry
import HttpCourier.Charset.Switching
import HttpCourier.Charset.Wide
import HttpCourier.Text.Blank

/-!
# Charsets of response bodies

`Charset.ofContentType` reads the charset parameter of a media type, and `Charset.decode` reads
bytes in a charset. What cannot be read is replaced by U+FFFD; a charset that is none is an error.
`Charset.read` reads bytes in the charset of a media type.
-/

namespace HttpCourier.Charset

open Text

/-- Why bytes cannot be read in a charset. -/
inductive Error where
  /-- The label has a null character, and is not looked up. -/
  | nullInLabel
  /-- The name stands for a coding of bytes as bytes. -/
  | notText (name : String)
  /-- The name is not in the registry. -/
  | unknown (name : String)
  /-- The charset has no characters at all. -/
  | undefined
  /-- The charset cannot replace what it cannot read. -/
  | strictOnly (name : String)
  /-- A byte at this place must be ASCII and is not. -/
  | notAscii (byte : UInt8) (place : Nat)
  deriving DecidableEq, Repr

/-- The words for an error. -/
def Error.message : Error → String
  | .nullInLabel => "embedded null character"
  | .notText name =>
    "'" ++ name ++ "' is not a text encoding; use codecs.decode() to handle arbitrary codecs"
  | .unknown name => "unknown encoding: " ++ name
  | .undefined => "decoding with 'undefined' codec failed (UnicodeError: undefined encoding)"
  | .strictOnly name =>
    "decoding with '" ++ name ++ "' codec failed (UnicodeError: Unsupported error handling replace)"
  | .notAscii byte place =>
    "'ascii' codec can't decode byte 0x" ++ String.ofList (Nat.toDigits 16 byte.toNat)
      ++ " in position " ++ toString place ++ ": ordinal not in range(128)"

/-- The name of the kind of an error. -/
def Error.label : Error → String
  | .nullInLabel => "ValueError"
  | .notText _ | .unknown _ => "LookupError"
  | .undefined | .strictOnly _ => "UnicodeError"
  | .notAscii .. => "UnicodeDecodeError"

/-- The codings of bytes as bytes. -/
def byteCodings : List String := ["base64", "bz2", "hex", "quopri", "rot-13", "uu", "zlib"]

/-- Reads ASCII; every other byte is replaced. -/
def decodeAscii (bytes : Bytes) : List Char :=
  bytes.map fun b => if b < 128 then Char.ofNat b.toNat else '\ufffd'

/-- Drops the mark that a UTF-8 text may start with. -/
def dropMark : Bytes → Bytes
  | 0xEF :: 0xBB :: 0xBF :: rest => rest
  | bytes => bytes

/-- The charsets that are not pages of one byte per character. -/
def decoders : List (String × (Bytes → List Char)) :=
  [("utf-8", Utf8.decodeReplacing), ("iso8859-1", Bytes.latin1), ("charmap", Bytes.latin1),
    ("ascii", decodeAscii), ("utf-8-sig", fun b => Utf8.decodeReplacing (dropMark b)),
    ("utf-16", decodeMarkedUtf16), ("utf-16-le", decodeUtf16 false none),
    ("utf-16-be", decodeUtf16 true none), ("utf-32", decodeMarkedUtf32),
    ("utf-32-le", decodeUtf32 false), ("utf-32-be", decodeUtf32 true), ("utf-7", Utf7.decode none),
    ("unicode-escape", decodeEscapes true), ("raw-unicode-escape", decodeEscapes false)]

/-- Reads bytes in the charset of a name. No bytes are no text in every charset. -/
def decode (name : String) (bytes : Bytes) : Except Error (List Char) :=
  if bytes.isEmpty then .ok []
  else if byteCodings.contains name then .error (.notText name)
  else if name = "undefined" then .error .undefined
  else if name = "idna" then .error (.strictOnly name)
  else if name = "punycode" then
    (Punycode.decode bytes).mapError fun fault => .notAscii fault.1 fault.2
  else match (decoders ++ multibyteDecoders ++ switchingDecoders).lookup name, pageRuns? name with
    | some read, _ => .ok (read bytes)
    | none, some runs => .ok (bytes.map (pageChar runs))
    | none, none => .error (.unknown name)

/-- The letters of the parameter's name; the small letter s has a second small form. -/
def isCharsetLetter (c letter : Char) : Bool :=
  c.toLower == letter || (letter == 's' && c == '\u017f')

/-- What follows the name of the parameter, if it stands at the front. -/
def afterName? (s : List Char) : Option (List Char) :=
  let name := "charset".toList
  if name.length ≤ s.length ∧ (s.zip name).all fun p => isCharsetLetter p.1 p.2 then
    some (s.drop name.length)
  else none

/-- The value of the parameter that follows a semicolon. -/
def valueAfterSemicolon? (s : List Char) : Option (List Char) := do
  let s ← afterName? (s.dropWhile isBlank)
  match s.dropWhile isBlank with
  | '=' :: s =>
    let s := s.dropWhile isBlank
    let s := if s.head? = some '"' then s.tail else s
    let value := s.takeWhile fun c => c != '"' && c != ';' && !isBlank c
    if value.isEmpty then none else some value
  | _ => none

/-- The value of the first charset parameter. -/
def parameter? : List Char → Option (List Char)
  | [] => none
  | c :: rest =>
    if c = ';' then (valueAfterSemicolon? rest).or (parameter? rest) else parameter? rest

/-- The charset of a media type; `default` when none is declared or the declared one is unknown. -/
def ofContentType (contentType : Option String) (default : String := "utf-8") : String :=
  (((contentType.getD "").toList |> parameter?).bind fun label => nameOf? (String.ofList label)).getD
    default

/-- The charset of a media type, when its label can be looked up. -/
def lookUp (contentType : Option String) (default : String := "utf-8") : Except Error String :=
  if (parameter? (contentType.getD "").toList).any fun label => label.contains '\x00' then
    .error .nullInLabel
  else .ok (ofContentType contentType default)

/-- Reads bytes in the charset of a media type. -/
def read (contentType : Option String) (bytes : Bytes) : Except Error (List Char) := do
  decode (← lookUp contentType) bytes

end HttpCourier.Charset
