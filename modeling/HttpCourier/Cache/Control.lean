import HttpCourier.Number.Parse
import HttpCourier.OrderedMap
import HttpCourier.Text.Quoted

/-!
# Cache directives

`CacheControl.ofValues` reads the values of the header field `Cache-Control` (RFC 9111, section
5.2): directives between commas, each a name with an optional value. First the writing is checked
(`readDirective`), then the directives that the cache knows are (`checkDirective`).
-/

namespace HttpCourier

open Text

/-- What the cache reads from the directives of a message. -/
structure CacheControl where
  noStore : Bool := false
  mustUnderstand : Bool := false
  onlyIfCached : Bool := false
  isPrivate : Bool := false
  deriving DecidableEq, Repr

namespace CacheControl

/-- What is wrong with directives: how they are written, or what they say. -/
inductive Error where
  | blank
  | onlySpaces
  | blankValue
  | openQuotes
  | badUnquoted (c : Char)
  | badQuoted (c : Char)
  | badName (c : Char)
  | missingValue (directive : String)
  | quotedNumber (directive : String)
  | badNumber (directive value : String)
  | unexpectedValue (directive : String)
  | emptyListItem
  deriving DecidableEq, Repr

/-- A character in the quotes of a message. -/
def shownChar (c : Char) : String := "'" ++ quoted c.toString ++ "'"

/-- The words for wrong directives. -/
def Error.message : Error → String
  | .blank => "The directive should not be left blank."
  | .onlySpaces => "The directive should not contain only whitespaces."
  | .blankValue => "The directive value cannot be left blank."
  | .openQuotes => "Invalid quotes around the value."
  | .badUnquoted c =>
    "The character " ++ shownChar c ++ " is not permitted for the unquoted values."
  | .badQuoted c => "The character " ++ shownChar c ++ " is not permitted for the quoted values."
  | .badName c => "The character " ++ shownChar c ++ " is not permitted in the directive name."
  | .missingValue d => "The directive '" ++ d ++ "' necessitates a value."
  | .quotedNumber d =>
    "The argument '" ++ d ++ "' should be an integer, but a quote was found."
  | .badNumber d v =>
    "The argument '" ++ d ++ "' should be an integer, but got '" ++ quoted v ++ "'."
  | .unexpectedValue d => "The directive '" ++ d ++ "' should have no value, but it does."
  | .emptyListItem => "The list value must not be empty."

/-- Whether what is wrong is the writing. -/
def Error.isWriting : Error → Bool
  | .blank | .onlySpaces | .blankValue | .openQuotes | .badUnquoted _ | .badQuoted _
  | .badName _ => true
  | _ => false

/-- The name of the kind of an error. -/
def Error.label (e : Error) : String := if e.isWriting then "ParseError" else "ValidationError"

/-- The characters of names and of values without quotes. -/
def isTokenChar (c : Char) : Bool :=
  isAsciiDigit c || decide ('a' ≤ c ∧ c ≤ 'z') || decide ('A' ≤ c ∧ c ≤ 'Z')
    || "!#$%&'*+-.^_`|~".toList.contains c

/-- The characters of values in quotes. -/
def isQuotedChar (c : Char) : Bool :=
  c == '\t' || c == ' ' || c == '!' || decide ('#' ≤ c ∧ c ≤ '[') || decide (']' ≤ c ∧ c ≤ '~')
    || decide (0x80 ≤ c.toNat ∧ c.toNat ≤ 0xFF)

/-- Drops a character at both ends. -/
def stripChar (c : Char) (s : List Char) : List Char :=
  (((s.dropWhile (· == c)).reverse).dropWhile (· == c)).reverse

/-- Drops the spaces, then the tabs, at both ends. -/
def stripSpace (s : List Char) : List Char := stripChar '\t' (stripChar ' ' s)

/-- A directive as it is written: its name and its value. -/
structure Directive where
  name : String
  value : Option (List Char) := none

/-- Checks the characters of a value. -/
def checkValue (value : List Char) : Except Error Unit :=
  match value with
  | [] => .error .blankValue
  | '"' :: rest =>
    if value.getLast? != some '"' then .error .openQuotes
    else match rest.dropLast.find? fun c => !isQuotedChar c with
      | some c => .error (.badQuoted c)
      | none => .ok ()
  | _ =>
    match value.find? fun c => !isTokenChar c with
    | some c => .error (.badUnquoted c)
    | none => .ok ()

/-- Reads one directive. -/
def readDirective (text : List Char) : Except Error Directive := do
  if text.isEmpty then throw .blank
  let text := stripSpace text
  if text.isEmpty then throw .onlySpaces
  let name := text.takeWhile isTokenChar
  match text.drop name.length with
  | [] => return { name := String.ofList name }
  | '=' :: value => do
    checkValue value
    return { name := String.ofList name, value := some value }
  | c :: _ => throw (.badName c)

/-- Whether a text occurs in another. -/
def occursIn (part : List Char) : List Char → Bool
  | [] => part.isEmpty
  | c :: rest => part.isPrefixOf (c :: rest) || occursIn part rest

/-- Splits a field value into directives; one that lists field names is a single directive. -/
def splitDirectives (value : String) : List (List Char) :=
  let s := value.toList
  if occursIn "no-cache=".toList s || occursIn "private=".toList s then [s] else splitOn ',' s

/-- The directives whose value is a number of seconds. -/
def timeDirectives : List String := ["max_age", "max_stale", "min_fresh", "s_maxage"]

/-- The directives without a value. -/
def flagDirectives : List String :=
  ["immutable", "must_revalidate", "must_understand", "no_store", "no_transform",
    "only_if_cached", "public", "proxy_revalidate"]

/-- The directives that may list field names. -/
def listDirectives : List String := ["no_cache", "private"]

/-- Checks the value of a directive that the cache knows. -/
def checkDirective (name : String) (value : Option (List Char)) : Except Error Unit :=
  if timeDirectives.contains name then
    match value with
    | none => .error (.missingValue name)
    | some v =>
      if v.head? = some '"' ∨ v.getLast? = some '"' then .error (.quotedNumber name)
      else if (Number.parseInt? v).isNone then .error (.badNumber name (String.ofList v))
      else .ok ()
  else if flagDirectives.contains name then
    if value.isSome then .error (.unexpectedValue name) else .ok ()
  else if listDirectives.contains name then
    match value with
    | none => .ok ()
    | some v =>
      if (splitOn ',' v.tail.dropLast).any List.isEmpty then .error .emptyListItem else .ok ()
  else .ok ()

/-- The name of a directive with underscores in the place of hyphens. -/
def plainName (name : String) : String :=
  String.ofList (name.toList.map fun c => if c = '-' then '_' else c)

/-- The directives that messages give, by name; of a repeated one the last value counts. -/
def ofDirectives (directives : List Directive) : Except Error CacheControl := do
  let known := OrderedMap.ofPairs (directives.map fun d => (d.name, d.value))
  let _ ← known.mapM fun (name, value) => checkDirective (plainName name) value
  let has (name : String) := known.any fun d => plainName d.1 == name
  return {
    noStore := has "no_store", mustUnderstand := has "must_understand",
    onlyIfCached := has "only_if_cached", isPrivate := has "private" }

/-- Reads the values of the field. -/
def ofValues (values : List String) : Except Error CacheControl := do
  let directives ← (values.flatMap splitDirectives).mapM readDirective
  ofDirectives directives

end CacheControl

end HttpCourier
