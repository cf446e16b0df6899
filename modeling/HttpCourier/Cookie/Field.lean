import HttpCourier.Cookie.Date
import HttpCourier.Message.Fields
import HttpCourier.Url.Basic

/-!
# Reading cookies

An answer sets cookies with `Set-Cookie` fields: a name with a value, and attributes that say where
and until when the cookie is kept. `Fields.cookieOffers` splits the fields into names and
attributes, and `CookieOffer.terms` sorts out the attributes: of those with one name the first
counts, and an age comes before a date. A field `Set-Cookie2`, of the form that never came into use,
is read as well, but only beside a `Set-Cookie`.
-/

namespace HttpCourier

open Text

/-- What stops the reader, so that no cookie of its fields is kept. -/
inductive CookieError where
  | date (e : CookieDate.Error)
  /-- An attribute for the age has no value. -/
  | ageless
  /-- A date that was not read is compared with the present. -/
  | unreadDate
  /-- The date is beyond the range of numbers with a fraction. -/
  | beyondRange
  deriving DecidableEq, Repr

/-- The value of an attribute. -/
inductive CookieValue where
  | text (s : String)
  /-- A date that was read, in seconds since the start of 1970. -/
  | moment (seconds : Int)
  deriving DecidableEq, Repr

/-- A cookie as it is offered: its name and value, and its attributes in order. -/
structure CookieOffer where
  name : String
  value : Option String
  attributes : List (String × Option CookieValue) := []
  deriving DecidableEq, Repr

/-- What the attributes of a cookie say. -/
structure CookieTerms where
  version : Option String := none
  domain : Option String := none
  path : Option String := none
  /-- The ports, if the attribute is there; it may have no value. -/
  port : Option (Option String) := none
  secure : Option Bool := none
  expires : Option CookieValue := none
  deriving DecidableEq, Repr

/-- A name with a value, or a name alone. -/
def cutPair (s : List Char) : String × Option String :=
  let (name, value) := Url.cut '=' (trimChars s)
  (trim (String.ofList name), value.map fun v => trim (String.ofList v))

/-- A text without the quotation mark it begins with, and without the one it ends with. -/
def stripQuotes (s : String) : String :=
  let s := if s.startsWith "\"" then s.toList.tail else s.toList
  String.ofList (if s.getLast? = some '"' then s.dropLast else s)

namespace CookieOffer

/-- Reads the attribute of a plain cookie; a date that is not understood is no value. -/
def readAttribute (now : Int) : String × Option String →
    Except CookieError (String × Option CookieValue)
  | (name, value) =>
    match lower name, value with
    | "expires", some v => do
      let moment ← (CookieDate.read now (stripQuotes v).toList).mapError CookieError.date
      return (name, moment.map CookieValue.moment)
    | "version", some v => .ok (name, some (.text (stripQuotes v)))
    | _, v => .ok (name, v.map CookieValue.text)

/-- Reads a `Set-Cookie` field. There is no cookie without a name; attributes without one are passed
over; and a cookie that says no version has version zero. -/
def ofField (now : Int) (field : String) : Except CookieError (Option CookieOffer) :=
  match (splitOn ';' field.toList).map cutPair with
  | [] => .ok none
  | (name, value) :: rest =>
    if name.isEmpty then .ok none
    else do
      let attributes ← (rest.filter fun a => !a.1.isEmpty).mapM (readAttribute now)
      let hasVersion := attributes.any fun a => lower a.1 == "version"
      return some {
        name, value
        attributes := attributes ++ if hasVersion then [] else [("version", some (.text "0"))] }

/-- Whether a character is part of a word in a `Set-Cookie2` field. -/
def isWordChar (c : Char) : Bool := !isBlank c && !"=;,".toList.contains c

/-- The value in quotation marks at the front of a text, and what follows it. A backslash stands
before a character that is meant as it is. -/
def quotedValue? : List Char → Option (List Char × List Char)
  | '"' :: rest => some ([], rest)
  | '\\' :: c :: rest =>
    if c = '\n' then none else (quotedValue? rest).map fun (value, rest) => (c :: value, rest)
  | ['\\'] => none
  | c :: rest => (quotedValue? rest).map fun (value, rest) => (c :: value, rest)
  | [] => none

/-- The value behind a word of a `Set-Cookie2` field, if there is one, and what follows it. -/
def wordValue (s : List Char) : Option String × List Char :=
  match trimLeft s with
  | '=' :: rest =>
    let rest := trimLeft rest
    let plain (s : List Char) := s.takeWhile fun c => !isBlank c && !";,".toList.contains c
    match rest with
    | '"' :: inside =>
      match quotedValue? inside with
      | some (value, rest) => (some (String.ofList value), rest)
      | none => (some (String.ofList (plain rest)), rest.drop (plain rest).length)
    | _ => (some (String.ofList (plain rest)), rest.drop (plain rest).length)
  | _ => (none, s)

/-- The words of a `Set-Cookie2` field with their values, cookie by cookie. Each round takes a word,
a comma or a run of separators, so there are no more rounds than characters. -/
def words : (rounds : Nat) → List (String × Option String) → List Char →
    List (List (String × Option String))
  | 0, pairs, _ | _ + 1, pairs, [] => [pairs]
  | rounds + 1, pairs, s =>
    let start := trimLeft s
    match start.takeWhile isWordChar with
    | [] =>
      match start with
      | ',' :: rest => pairs :: words rounds [] rest
      | _ => words rounds pairs (s.dropWhile fun c => isBlank c || c == '=' || c == ';')
    | name =>
      let (value, rest) := wordValue (start.drop name.length)
      words rounds (pairs ++ [(String.ofList name, value)]) rest

/-- Reads a `Set-Cookie2` field. -/
def ofWords (field : String) : List CookieOffer :=
  (words field.length [] field.toList).filterMap fun
    | [] => none
    | (name, value) :: rest =>
      some { name, value, attributes := rest.map fun (n, v) => (n, v.map CookieValue.text) }

/-- Adds an attribute to the terms; nothing when it spoils the cookie. -/
def addAttribute (now : Int) (terms : CookieTerms) : String × Option CookieValue →
    Except CookieError (Option CookieTerms)
  | (name, value) =>
    let text? := match value with
      | some (.text s) => some s
      | _ => none
    match lower name with
    | "version" =>
      if terms.version.isSome then .ok (some terms)
      else .ok (text?.map fun s => { terms with version := some s })
    | "domain" =>
      if terms.domain.isSome then .ok (some terms)
      else .ok (text?.map fun s => { terms with domain := some (lower s) })
    | "path" =>
      if terms.path.isSome then .ok (some terms)
      else .ok (text?.map fun s => { terms with path := some s })
    | "port" => .ok (some (if terms.port.isSome then terms else { terms with port := some text? }))
    | "secure" =>
      .ok (some (
        if terms.secure.isSome then terms else { terms with secure := some (text? != some "") }))
    | "expires" =>
      .ok (some (
        if terms.expires.isSome || value.isNone then terms else { terms with expires := value }))
    | "max-age" =>
      match text? with
      | none => .error .ageless
      | some s => .ok ((CookieDate.integer? s.toList).map fun age =>
          { terms with expires := some (.moment (now + age)) })
    | _ => .ok (some terms)

/-- What the attributes of an offer say; nothing when one of them spoils the cookie. -/
def terms (now : Int) (offer : CookieOffer) : Except CookieError (Option CookieTerms) :=
  offer.attributes.foldlM (fun terms named =>
    match terms with
    | some terms => addAttribute now terms named
    | none => .ok none) (some {})

end CookieOffer

end HttpCourier
