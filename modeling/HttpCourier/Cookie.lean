import HttpCourier.Cookie.Field
import HttpCourier.Fault
import HttpCourier.OrderedMap

/-!
# Cookies

A `CookieJar` keeps the cookies that answers set, by domain, path and name, and gives those that go
with a request. It follows the rules of the first cookies, which say nothing of the sender: the
domain of a cookie has to suit the host that sets it, the path need not; a cookie is kept until it
expires; and a secure one goes over secure connections only. The rules that need a list of public
domains or the user's consent are not among them.
-/

namespace HttpCourier

open Text

/-- A cookie that is kept. -/
structure Cookie where
  version : Int := 0
  value : Option String
  /-- The ports it goes to, if they are limited. -/
  port : Option String := none
  secure : Bool := false
  /-- When it expires, in seconds since the start of 1970; without that it is kept for the
  session. -/
  expires : Option Int := none
  deriving DecidableEq, Repr

/-- The cookies of a client: by domain, then path, then name; and the time, in seconds since the
start of 1970, at which the jar is looked at. -/
structure CookieJar where
  kept : OrderedMap String (OrderedMap String (OrderedMap String Cookie)) := []
  now : Int := 0

namespace CookieJar

/-- The jar at another time. -/
def asOf (jar : CookieJar) (now : Int) : CookieJar := { jar with now }

/-- Whether no cookie is kept, not even an expired one. -/
def isEmpty (jar : CookieJar) : Bool := jar.kept.all fun d => d.2.all fun p => p.2.isEmpty

/-- The host of an address, with user information and without a port. -/
def hostOf (u : Url) : String :=
  let s := u.authority.toList
  let digits := (s.reverse.takeWhile isAsciiDigit).length
  let host := match s.reverse.drop digits with
    | ':' :: before => if digits = 0 then s else before.reverse
    | _ => s
  lower (String.ofList host)

/-- The domain of cookies that an address sets; a name without a point is a local one. -/
def domainOf (u : Url) : String :=
  let host := hostOf u
  if host.toList.contains '.' then host else host ++ ".local"

/-- A domain with a point in front. -/
def dotted (domain : String) : String := if domain.startsWith "." then domain else "." ++ domain

/-- The port that an address names behind the first colon; 80 when there is none, whatever the
scheme. -/
def portOf? (u : Url) : Option String :=
  match (Url.cut ':' (Url.decode u.authority.toList)).2 with
  | none => some "80"
  | some port => (CookieDate.integer? port).map fun _ => String.ofList port

/-- Whether a character stands for itself in the path of a cookie. -/
def isPathChar (c : Char) : Bool :=
  CookieDate.isWordChar c || "-.~%/;:@&=+$,!*'()".toList.contains c

/-- Percent encoding with capital digits. -/
def capitalEscapes : List Char → List Char
  | '%' :: a :: b :: rest =>
    if (Bytes.hexValue? a).isSome && (Bytes.hexValue? b).isSome then
      '%' :: a.toUpper :: b.toUpper :: capitalEscapes rest
    else '%' :: capitalEscapes (a :: b :: rest)
  | c :: rest => c :: capitalEscapes rest
  | [] => []

/-- A path as paths of cookies are compared. -/
def escapePath (path : String) : String :=
  String.ofList (capitalEscapes (Url.encode isPathChar path.toList))

/-- The path of an address, which starts with a slash. -/
def pathOf (u : Url) : String :=
  let path := escapePath u.path
  if path.startsWith "/" then path else "/" ++ path

/-- The path of cookies that name none: that of the address up to its last slash, which cookies of
version zero leave out. -/
def defaultPath (u : Url) (version : Option Int) : String :=
  let before := ((pathOf u).toList.reverse.dropWhile (· != '/')).reverse
  let before := if version = some 0 then before.dropLast else before
  if before.isEmpty then "/" else String.ofList before

/-- A cookie with the place where it is kept. -/
structure Placed where
  domain : String
  path : String
  name : String
  cookie : Cookie
  /-- Whether the domain was named. -/
  ofDomain : Bool := false
  /-- Whether ports were named. -/
  ofPorts : Bool := false

/-- Forgets a cookie. -/
def forget (jar : CookieJar) (domain path name : String) : CookieJar :=
  match jar.kept.get? domain with
  | none => jar
  | some paths =>
    match paths.get? path with
    | none => jar
    | some names => { jar with kept := jar.kept.set domain (paths.set path (names.erase name)) }

/-- Keeps a cookie at its place. -/
def put (jar : CookieJar) (c : Placed) : CookieJar :=
  let paths := (jar.kept.get? c.domain).getD []
  let names := (paths.get? c.path).getD []
  { jar with kept := jar.kept.set c.domain (paths.set c.path (names.set c.name c.cookie)) }

/-- A moment as the nearest number with a fraction, without that fraction. -/
def roundMoment (seconds : Int) : Except CookieError Int :=
  match (Binary64.ofInt seconds).truncate? with
  | some n => .ok n
  | none => .error .beyondRange

/-- Makes the cookie of an offer. One that has expired is none: the cookie kept in its place is
forgotten. -/
def place (jar : CookieJar) (u : Url) (offer : CookieOffer) (terms : CookieTerms) :
    CookieJar × Except CookieError (Option Placed) :=
  let version := terms.version.map fun v => CookieDate.integer? v.toList
  if version = some none then (jar, .ok none)
  else
    let version := version.bind id
    let path := match terms.path with
      | some p => if p.isEmpty then defaultPath u version else escapePath p
      | none => defaultPath u version
    let domain := match terms.domain with
      | some d => dotted d
      | none => domainOf u
    let port := match terms.port with
      | some (some ports) => some (String.ofList (ports.toList.filter fun c => !isBlank c))
      | some none => portOf? u
      | none => none
    let cookie (expires : Option Int) : Option Placed := version.map fun version => {
      domain, path, name := offer.name, ofDomain := terms.domain.isSome,
      ofPorts := (terms.port.bind id).isSome,
      cookie := { version, value := offer.value, port, secure := terms.secure.getD false, expires } }
    match terms.expires with
    | none => (jar, .ok (cookie none))
    | some (.text _) => (jar, .error .unreadDate)
    | some (.moment t) =>
      if t ≤ jar.now then (jar.forget domain path offer.name, .ok none)
      else (jar, (roundMoment t).map fun t => cookie (some t))

/-- Makes the cookies of offers, one after the other; after an error there are none. -/
def placeAll (jar : CookieJar) (u : Url) :
    List (CookieOffer × CookieTerms) → CookieJar × Except CookieError (List Placed)
  | [] => (jar, .ok [])
  | (offer, terms) :: rest =>
    match jar.place u offer terms with
    | (jar, .error e) => (jar, .error e)
    | (jar, .ok c) =>
      let (jar, others) := jar.placeAll u rest
      (jar, others.map fun cs => c.toList ++ cs)

/-- Makes the cookies of fields that were read; there are none when anything is wrong with one. -/
def cookiesOf (jar : CookieJar) (u : Url) (offers : Except CookieError (List CookieOffer)) :
    CookieJar × List Placed :=
  let read : Except CookieError (List (CookieOffer × CookieTerms)) := do
    let offers ← offers
    let terms ← offers.mapM fun o => return (o, ← o.terms jar.now)
    return terms.filterMap fun (o, t) => t.map fun t => (o, t)
  match read with
  | .error _ => (jar, [])
  | .ok offers =>
    match jar.placeAll u offers with
    | (jar, .ok cookies) => (jar, cookies)
    | (jar, .error _) => (jar, [])

/-- Whether an address may set cookies for the domain that one names. -/
def allowsDomain (u : Url) (c : Placed) : Bool :=
  if !c.ofDomain then true
  else
    let host := domainOf u
    let bare := String.ofList c.domain.toList.tail
    if !bare.toList.contains '.' && !host.endsWith ".local" then false
    else c.cookie.version != 0 || host.endsWith c.domain || host.endsWith (bare ++ ".local")
      || host.startsWith "." || ("." ++ host).endsWith c.domain

/-- Whether an address may set cookies for the ports that one names: they are numbers up to that of
the address. -/
def allowsPorts (u : Url) (c : Placed) : Bool :=
  if !c.ofPorts then true
  else
    let asked := (portOf? u).getD "80"
    let ports := (splitOn ',' (c.cookie.port.getD "").toList).map String.ofList
    let isNumber (p : String) := (CookieDate.integer? p.toList).isSome
    ports.contains asked && (ports.takeWhile (· != asked)).all isNumber && isNumber asked

/-- Whether a cookie is kept: it has no later version than the first, and suits the address. -/
def allows (u : Url) (c : Placed) : Bool :=
  decide (c.cookie.version ≤ 0) && allowsDomain u c && allowsPorts u c

/-- Keeps the cookies of an answer. Plain cookies that call themselves version one are taken for
version zero. -/
def addAll (jar : CookieJar) (u : Url) (fields : Fields) : CookieJar :=
  let plain := fields.textsOf "Set-Cookie"
  if plain.isEmpty then jar
  else
    let (jar, others) :=
      jar.cookiesOf u (.ok ((fields.textsOf "Set-Cookie2").flatMap CookieOffer.ofWords))
    let (jar, cookies) := jar.cookiesOf u ((plain.mapM (CookieOffer.ofField jar.now)).map fun offers =>
      offers.filterMap id)
    let cookies := cookies.map fun c =>
      if c.cookie.version = 1 then { c with cookie := { c.cookie with version := 0 } } else c
    ((others ++ cookies).filter (allows u)).foldl put jar

/-- Whether cookies of a domain go to an address. -/
def suitsDomain (u : Url) (domain : String) : Bool :=
  (dotted (hostOf u)).endsWith (dotted domain) || (dotted (domainOf u)).endsWith (dotted domain)

/-- Whether cookies of a path go to an address. -/
def suitsPath (u : Url) (path : String) : Bool :=
  let asked := (pathOf u).toList
  let path := path.toList
  asked == path
    || (path.isPrefixOf asked &&
      (path.getLast? == some '/' || (asked.drop path.length).head? == some '/'))

/-- Whether a cookie of a domain goes to an address whose domain and path it suits. -/
def suits (now : Int) (u : Url) (domain : String) (c : Cookie) : Bool :=
  (!c.secure || ["https", "wss"].contains u.scheme)
    && c.expires.all (now < ·)
    && c.port.all (fun p => p.isEmpty
      || ((splitOn ',' p.toList).map String.ofList).contains ((portOf? u).getD "80"))
    && (c.version != 0 || ("." ++ domainOf u).endsWith (dotted domain))

/-- The path, name and value of each cookie that goes to an address. -/
def suiting (jar : CookieJar) (u : Url) : List (String × String × Option String) :=
  (jar.kept.filter fun d => suitsDomain u d.1).flatMap fun d =>
    (d.2.filter fun p => suitsPath u p.1).flatMap fun p =>
      (p.2.filter fun n => suits jar.now u d.1 n.2).map fun (name, c) => (p.1, name, c.value)

/-- The value of the header field with the cookies for an address: those of longer paths first. -/
def field? (jar : CookieJar) (u : Url) : Option String :=
  match (suiting jar u).mergeSort fun a b => decide (b.1.length ≤ a.1.length) with
  | [] => none
  | cookies => some ("; ".intercalate (cookies.map fun (_, name, value) =>
      value.elim name fun v => name ++ "=" ++ v))

/-- Whether cookies can be kept for an address: only when it has a scheme. -/
def knows (u : Url) : Bool := !u.scheme.isEmpty

/-- The fields of a request with the cookies for its address, unless they have their own. Cookies are
written in the encoding in which the fields are read. -/
def addTo (jar : CookieJar) (url : Url) (fields : Fields) : Except Fault Fields :=
  if jar.isEmpty then .ok fields
  else if !knows url then .error (.unknownUrlType url.toString)
  else match fields.has "Cookie", jar.field? url with
    | false, some cookies => (fields.putEncoded "Cookie" cookies).mapError Fault.notAscii
    | _, _ => .ok fields

end CookieJar

end HttpCourier
