import HttpCourier.Number.Parse
import HttpCourier.Text.Quoted
import HttpCourier.Url.Address
import HttpCourier.Url.Percent
import HttpCourier.Url.Punycode

/-!
# Addresses

A `Url` has a scheme, user information, a host, a port, a path, a query and a fragment, each in its
normal form: scheme and host in small letters, the default port left out, the dot segments of the
path resolved, and everything percent encoded. `Url.parse` splits a text into the parts as they are
written (`Parts.ofText`) and brings them into that form (`Parts.build`).
-/

namespace HttpCourier

/-- An address in normal form. -/
structure Url where
  scheme : String := ""
  userInfo : String := ""
  host : String := ""
  port : Option Int := none
  path : String := ""
  query : Option String := none
  fragment : Option String := none
  deriving DecidableEq, Repr

namespace Url

open Text

/-- What makes a text no address. -/
inductive Error where
  | tooLong
  | componentTooLong (component : String)
  | control (c : Char) (position : Nat)
  | componentControl (component : String) (c : Char) (position : Nat)
  | badComponent (component : String)
  | badPort (port : String)
  | badIPv4 (host : String)
  | badIPv6 (host : String)
  | badHostName (host : String)
  | relativePathAfterHost
  | pathWithTwoSlashes
  | pathWithColon
  deriving DecidableEq, Repr

/-- The words for what is wrong with an address. -/
def Error.message : Error → String
  | .tooLong => "URL too long"
  | .componentTooLong name => "URL component '" ++ name ++ "' too long"
  | .control c position =>
    "Invalid non-printable ASCII character in URL, " ++ quoted c.toString ++ " at position "
      ++ toString position ++ "."
  | .componentControl name c position =>
    "Invalid non-printable ASCII character in URL " ++ name ++ " component, "
      ++ quoted c.toString ++ " at position " ++ toString position ++ "."
  | .badComponent name => "Invalid URL component '" ++ name ++ "'"
  | .badPort port => "Invalid port: " ++ quoted port
  | .badIPv4 host => "Invalid IPv4 address: " ++ quoted host
  | .badIPv6 host => "Invalid IPv6 address: " ++ quoted host
  | .badHostName host => "Invalid IDNA hostname: " ++ quoted host
  | .relativePathAfterHost => "For absolute URLs, path must be empty or begin with '/'"
  | .pathWithTwoSlashes => "Relative URLs cannot have a path starting with '//'"
  | .pathWithColon => "Relative URLs cannot have a path starting with ':'"

/-- The greatest length of an address, in characters. -/
def maxLength : Nat := 65536

/-- The parts of an address as they are written. -/
structure Parts where
  scheme : List Char := []
  userInfo : List Char := []
  host : List Char := []
  port : List Char := []
  path : List Char := []
  query : Option (List Char) := none
  fragment : Option (List Char) := none

/-- The first part of a text up to a character, and what follows that character, if it is there. -/
def cut (c : Char) (s : List Char) : List Char × Option (List Char) :=
  match s.dropWhile (· != c) with
  | [] => (s, none)
  | _ :: rest => (s.takeWhile (· != c), some rest)

/-- The parts of a text before and after its last occurrence of a character. -/
def cutLast? (c : Char) (s : List Char) : Option (List Char × List Char) :=
  let after := (s.reverse.takeWhile (· != c)).reverse
  if after.length < s.length then some (s.take (s.length - after.length - 1), after) else none

/-- A letter of ASCII. -/
def isAsciiLetter (c : Char) : Bool := decide ('a' ≤ c ∧ c ≤ 'z') || decide ('A' ≤ c ∧ c ≤ 'Z')

/-- Whether a text, possibly empty, is the name of a scheme. -/
def isSchemeName : List Char → Bool
  | [] => true
  | c :: rest =>
    isAsciiLetter c && rest.all fun d => isAsciiLetter d || isAsciiDigit d || "+.-".toList.contains d

/-- Splits off the scheme, which ends at the first colon. -/
def splitScheme (s : List Char) : List Char × List Char :=
  match cut ':' s with
  | (name, some rest) => if isSchemeName name then (name, rest) else ([], s)
  | (_, none) => ([], s)

/-- Splits a text at the first `@` of its kind: the user information ends at the last one. The host
is in brackets or ends at the first colon, which the port follows. -/
def splitAuthority (s : List Char) : List Char × List Char × List Char :=
  let (userInfo, rest) := (cutLast? '@' s).getD ([], s)
  let (host, rest) :=
    match rest, cutLast? ']' rest with
    | '[' :: _, some (inside, after) => (inside ++ [']'], after)
    | _, _ => (rest.takeWhile fun c => c != ':' && c != '@', rest.dropWhile fun c => c != ':' && c != '@')
  (userInfo, host, if rest.head? = some ':' then rest.tail else rest)

/-- Splits a text into the parts of an address. Every text has such parts. -/
def Parts.ofText (s : List Char) : Parts :=
  let (scheme, s) := splitScheme s
  let (s, fragment) := cut '#' s
  let (s, query) := cut '?' s
  if ['/', '/'].isPrefixOf s then
    let s := s.drop 2
    let (userInfo, host, port) := splitAuthority (s.takeWhile (· != '/'))
    { scheme, userInfo, host, port, path := s.dropWhile (· != '/'), query, fragment }
  else { scheme, path := s, query, fragment }

/-- The port that a scheme has when none is written. -/
def defaultPort? (scheme : List Char) : Option Int :=
  [("ftp", 21), ("http", 80), ("https", 443), ("ws", 80), ("wss", 443)].lookup (String.ofList scheme)

/-- The port of an address; the default port of the scheme, as the scheme is written, is left
out. -/
def normalPort (scheme port : List Char) : Except Error (Option Int) :=
  if port.isEmpty then .ok none
  else match Number.parseInt? port with
    | none => .error (.badPort (String.ofList port))
    | some n => .ok (if defaultPort? scheme = some n then none else some n)

/-- Whether a text is in brackets. -/
def isBracketed (s : List Char) : Bool :=
  s.head? == some '[' && s.getLast? == some ']' && decide (2 ≤ s.length)

/-- The host of an address, in small ASCII letters; an address in brackets loses them. -/
def normalHost (host : List Char) : Except Error (List Char) :=
  if host.isEmpty then .ok []
  else if looksDotted host then
    if isIPv4 host then .ok host else .error (.badIPv4 (String.ofList host))
  else if isBracketed host then
    let inside := host.tail.dropLast
    if isIPv6 inside then .ok inside else .error (.badIPv6 (String.ofList host))
  else if host.all fun c => decide (c.toNat < 128) then
    .ok (encode safeInHost (lower (String.ofList host)).toList)
  else match asciiHost? (lower (String.ofList host)).toList with
    | some name => .ok name
    | none => .error (.badHostName (String.ofList host))

/-- Resolves the segments of a path: `.` is dropped, and `..` drops the segment before it, unless
only the empty one before the first slash is left. -/
def resolveSegments (segments : List (List Char)) : List (List Char) :=
  segments.foldl (fun out segment =>
    if segment = ['.'] then out
    else if segment = ['.', '.'] then (if out = [] ∨ out = [[]] then out else out.dropLast)
    else out ++ [segment]) []

/-- A path without dot segments. -/
def normalPath (path : List Char) : List Char :=
  let segments := splitOn '/' path
  if segments.contains ['.'] || segments.contains ['.', '.'] then
    List.intercalate ['/'] (resolveSegments segments)
  else path

/-- Whether a path may follow what stands before it. -/
def checkPath (hasScheme hasAuthority : Bool) (path : List Char) : Except Error Unit :=
  if hasAuthority && !path.isEmpty && path.head? != some '/' then .error .relativePathAfterHost
  else if !hasScheme && !hasAuthority && ['/', '/'].isPrefixOf path then .error .pathWithTwoSlashes
  else if !hasScheme && !hasAuthority && path.head? == some ':' then .error .pathWithColon
  else .ok ()

/-- Brings the parts of an address into normal form. -/
def Parts.build (p : Parts) : Except Error Url := do
  let scheme := lower (String.ofList p.scheme)
  let userInfo := encode safeInUserInfo p.userInfo
  let host ← normalHost p.host
  let port ← normalPort p.scheme p.port
  let hasScheme := !scheme.isEmpty
  let hasAuthority := !userInfo.isEmpty || !host.isEmpty || port.isSome
  checkPath hasScheme hasAuthority p.path
  let path := if hasScheme || hasAuthority then normalPath p.path else p.path
  return {
    scheme, userInfo := String.ofList userInfo, host := String.ofList host, port,
    path := String.ofList (encode safeInPath path),
    query := p.query.map fun q => String.ofList (encode safeInQuery q),
    fragment := p.fragment.map fun f => String.ofList (encode safeInFragment f) }

/-- The first control character of ASCII in a text, with its position. -/
def control? (s : List Char) : Option (Char × Nat) :=
  let before := s.takeWhile fun c => isPrintableAscii c || decide (128 ≤ c.toNat)
  (s.drop before.length).head?.map fun c => (c, before.length)

/-- Reads an address. -/
def parse (text : String) : Except Error Url :=
  let s := text.toList
  if maxLength < s.length then .error .tooLong
  else match control? s with
    | some (c, position) => .error (.control c position)
    | none => (Parts.ofText s).build

/-- The host as it is written before a port: an IPv6 address stands in brackets. -/
def shownHost (u : Url) : String :=
  if u.host.toList.contains ':' then "[" ++ u.host ++ "]" else u.host

/-- The port with a colon, if there is one. -/
def shownPort (u : Url) : String := u.port.elim "" fun n => ":" ++ toString n

/-- Host and port. -/
def hostAndPort (u : Url) : String := u.shownHost ++ u.shownPort

/-- User information, host and port. -/
def authority (u : Url) : String :=
  (if u.userInfo.isEmpty then "" else u.userInfo ++ "@") ++ u.hostAndPort

/-- The text of an address. -/
protected def toString (u : Url) : String :=
  (if u.scheme.isEmpty then "" else u.scheme ++ ":")
    ++ (if u.authority.isEmpty then "" else "//" ++ u.authority)
    ++ u.path ++ (u.query.elim "" fun q => "?" ++ q) ++ u.fragment.elim "" fun f => "#" ++ f

instance : ToString Url := ⟨Url.toString⟩

/-- The path and query that a request asks for. -/
def target (u : Url) : String :=
  (if u.path.isEmpty then "/" else u.path) ++ u.query.elim "" fun q => "?" ++ q

/-- The host as people read it. -/
def hostName (u : Url) : String := String.ofList (unicodeHost u.host.toList)

/-- Whether an address names both a scheme and a host. -/
def isAbsolute (u : Url) : Bool := !u.scheme.isEmpty && !u.host.isEmpty

/-- The port that a connection uses when the address names none, or names zero. -/
def effectivePort (u : Url) : Int :=
  match u.port with
  | some n => if n = 0 then (if u.scheme = "https" then 443 else 80) else n
  | none => if u.scheme = "https" then 443 else 80

/-- The route of an address: scheme, host and port, by which credentials are kept apart. -/
def route (u : Url) : String := u.scheme ++ "://" ++ u.hostName ++ ":" ++ toString u.effectivePort

/-- The parts of an address that was read before, as they are written in it. -/
def toParts (u : Url) : Parts :=
  let (userInfo, host, port) := splitAuthority u.authority.toList
  { scheme := u.scheme.toList, userInfo, host, port, path := u.path.toList,
    query := u.query.map String.toList, fragment := u.fragment.map String.toList }

/-- Checks one part that is put into an address. -/
def checkComponent (component : String) (s : List Char) : Except Error Unit :=
  if maxLength < s.length then .error (.componentTooLong component)
  else match control? s with
    | some (c, position) => .error (.componentControl component c position)
    | none => .ok ()

/-- The address on another host. -/
def withHost (u : Url) (host : String) : Except Error Url := do
  let host := host.toList
  let host := if host.contains ':' && !isBracketed host then ['['] ++ host ++ [']'] else host
  checkComponent "host" host
  ({ u.toParts with host } : Parts).build

/-- The address with another fragment. -/
def withFragment (u : Url) (fragment : String) : Except Error Url := do
  checkComponent "fragment" fragment.toList
  ({ u.toParts with fragment := some fragment.toList } : Parts).build

/-- The fragment as it is meant, without percent encoding. -/
def plainFragment (u : Url) : String := String.ofList (decode (u.fragment.getD "").toList)

/-- The name and password of the user information, as they are meant. -/
def credentials (u : Url) : List Char × List Char :=
  let (name, password) := cut ':' u.userInfo.toList
  (decode name, decode (password.getD []))

/-- The address without user information. -/
def withoutCredentials (u : Url) : Except Error Url := ({ u.toParts with userInfo := [] } : Parts).build

/-- The address that a request for a text is sent to: a text without scheme or host becomes a path
of its own. -/
def ofRequest (text : String) : Except Error Url := do
  let u ← parse text
  if u.isAbsolute then return u
  let path := '/' :: (u.target.toList.dropWhile (· == '/'))
  let (path, query) := cut '?' path
  checkComponent "path" path
  (query.elim (.ok ()) (checkComponent "query") : Except Error Unit)
  ({ path, query } : Parts).build

end Url

end HttpCourier
