import HttpCourier.Hash.Md5
import HttpCourier.Hash.Sha1
import HttpCourier.Hash.Sha256
import HttpCourier.Hash.Sha512
import HttpCourier.Message.Request

/-!
# Digest credentials

A server challenges with a realm and a nonce; the client answers with a digest of its credentials,
the challenge and the request (RFC 7616). `Challenge.ofField` reads a challenge, and
`Digest.authorize` writes the answer. The counter of answers and the nonces that the client draws
for them are part of `DigestState`, beside the challenges that were kept for each route.
-/

namespace HttpCourier

open Text

namespace Digest

/-- A challenge. -/
structure Challenge where
  realm : String
  nonce : String
  algorithm : String := "MD5"
  opaqueData : Option String := none
  qop : Option String := none
  deriving DecidableEq

/-- What makes a challenge unusable. -/
inductive Error where
  /-- A part of the challenge has no equals sign. -/
  | fieldWithoutValue
  /-- A part of the challenge has nothing after its equals sign. -/
  | emptyValue
  /-- The realm or the nonce is missing. -/
  | malformed
  | unknownAlgorithm (name : String)
  | authIntOnly
  | unknownQop (qop : String)
  deriving DecidableEq

/-- The words for an unusable challenge. -/
def Error.message : Error → String
  | .fieldWithoutValue => "not enough values to unpack (expected 2, got 1)"
  | .emptyValue => "string index out of range"
  | .malformed => "Malformed Digest WWW-Authenticate header"
  | .unknownAlgorithm name => quoted name
  | .authIntOnly => "Digest auth-int support is not yet implemented"
  | .unknownQop qop =>
    "Unexpected qop value \"" ++ quotedBytes (Bytes.ofString qop) ++ "\" in digest auth"

/-- The name of the kind of an error. -/
def Error.label : Error → String
  | .fieldWithoutValue => "ValueError"
  | .emptyValue => "IndexError"
  | .malformed | .unknownQop _ => "ProtocolError"
  | .unknownAlgorithm _ => "KeyError"
  | .authIntOnly => "NotImplementedError"

/-- Where a reader of a list stands: outside quotes, inside, or inside after a backslash. -/
inductive Place where
  | outside
  | inside
  | escaped

/-- Splits a list at the commas outside quotes. Inside quotes a backslash is dropped, and the
character after it is kept. An empty last part is left out. -/
def splitList : List Char → Place → (part : List Char) → List (List Char)
  | [], _, part => if part.isEmpty then [] else [part.reverse]
  | c :: rest, .escaped, part => splitList rest .inside (c :: part)
  | c :: rest, .inside, part =>
    if c = '\\' then splitList rest .escaped part
    else splitList rest (if c = '"' then .outside else .inside) (c :: part)
  | c :: rest, .outside, part =>
    if c = ',' then part.reverse :: splitList rest .outside []
    else splitList rest (if c = '"' then .inside else .outside) (c :: part)

/-- Takes the quotes off a value. -/
def unquote (value : List Char) : Except Error (List Char) :=
  match value with
  | [] => .error .emptyValue
  | c :: rest =>
    if c = '"' ∧ value.getLast? = some '"' then .ok rest.dropLast else .ok value

/-- One part of a challenge: its name and its value. -/
def readField (part : List Char) : Except Error (String × String) :=
  match Url.cut '=' (trimChars part) with
  | (_, none) => .error .fieldWithoutValue
  | (name, some value) => do
    let value ← unquote value
    return (String.ofList name, String.ofList value)

/-- The challenge of fields. -/
def Challenge.ofFields (fields : OrderedMap String String) : Except Error Challenge :=
  match fields.get? "realm", fields.get? "nonce" with
  | some realm, some nonce =>
    .ok {
      realm, nonce, algorithm := (fields.get? "algorithm").getD "MD5",
      opaqueData := fields.get? "opaque", qop := fields.get? "qop" }
  | _, _ => .error .malformed

/-- Reads the challenge that follows the scheme in a header field. -/
def Challenge.ofField (value : String) : Except Error Challenge := do
  let parts := (Url.cut ' ' value.toList).2.getD []
  let fields ← (splitList parts .outside []).mapM readField
  Challenge.ofFields (OrderedMap.ofPairs fields)

/-- The hash functions that a challenge may name. -/
def hashes : List (String × (Bytes → Bytes)) :=
  [("MD5", Hash.Md5.hash), ("MD5-SESS", Hash.Md5.hash),
    ("SHA", Hash.Sha1.hash), ("SHA-SESS", Hash.Sha1.hash),
    ("SHA-256", Hash.Sha256.hash), ("SHA-256-SESS", Hash.Sha256.hash), ("SHA-512", Hash.Sha512.hash),
    ("SHA-512-SESS", Hash.Sha512.hash)]

/-- The hash function of a challenge. -/
def hashOf (challenge : Challenge) : Except Error (Bytes → Bytes) :=
  let name := upper challenge.algorithm
  match hashes.lookup name with
  | some hash => .ok hash
  | none => .error (.unknownAlgorithm name)

/-- Splits the qualities of protection at commas, each with at most one space after it. -/
def splitQop (qop : String) : List (List Char) :=
  match splitOn ',' qop.toList with
  | [] => []
  | first :: rest => first :: rest.map fun s => if s.head? = some ' ' then s.tail else s

/-- Whether the answer covers a counter and a nonce of the client's own. -/
def usesCounter (challenge : Challenge) : Except Error Bool :=
  match challenge.qop with
  | none => .ok false
  | some qop =>
    let offered := splitQop qop
    if offered.contains "auth".toList then .ok true
    else if offered = ["auth-int".toList] then .error .authIntOnly
    else .error (.unknownQop qop)

/-- A nonce of the client's own, of sixty-four bits, as it is written. -/
def nonceText (nonce : UInt64) : String := String.ofList (hexDigits 16 nonce.toNat)

/-- A counter as eight hexadecimal digits, or more when it is larger. -/
def counterText (n : Nat) : String :=
  let digits := Nat.toDigits 16 n
  String.ofList (List.replicate (8 - digits.length) '0' ++ digits)

/-- A user's name and password. -/
structure Credentials where
  username : String
  password : String
  deriving DecidableEq

/-- Texts with colons between them. -/
def joined (parts : List String) : Bytes := Bytes.ofString (":".intercalate parts)

/-- The value of an answer's header field, with the nonce `own` of the client. -/
def answer (who : Credentials) (challenge : Challenge) (hash : Bytes → Bytes) (counted : Bool)
    (counter : Nat) (own : UInt64) (method target : String) : String :=
  let digest (parts : List String) := Bytes.toHex (hash (joined parts))
  let nc := counterText counter
  let secret := digest [who.username, challenge.realm, who.password]
  let secret := if (lower challenge.algorithm).endsWith "-sess" then
    digest [secret, challenge.nonce, nonceText own] else secret
  let subject := digest [method, target]
  let response :=
    if counted then digest [secret, challenge.nonce, nc, nonceText own, "auth", subject]
    else digest [secret, challenge.nonce, subject]
  let quote (name value : String) := name ++ "=\"" ++ value ++ "\""
  let opaqueData := match challenge.opaqueData with
    | some d => if d.isEmpty then [] else [quote "opaque" d]
    | none => []
  let tail := if counted then ["qop=auth", "nc=" ++ nc, quote "cnonce" (nonceText own)] else []
  "Digest " ++ ", ".intercalate ([quote "username" who.username, quote "realm" challenge.realm,
    quote "nonce" challenge.nonce, quote "uri" target, quote "response" response,
    "algorithm=" ++ challenge.algorithm] ++ opaqueData ++ tail)

end Digest

/-- What is remembered between exchanges: the last challenge of each route, the counter of the next
answer, and the nonces to draw for answers. -/
structure DigestState where
  challenges : OrderedMap String Digest.Challenge := []
  counter : Nat := 1
  /-- The nonces that the client draws one after the other, which may be any. -/
  nonces : Nat → UInt64 := fun _ => 0
  /-- How many of them were drawn. -/
  drawn : Nat := 0

namespace DigestState

/-- The nonce of the next answer. -/
def nonce (state : DigestState) : UInt64 := state.nonces state.drawn

/-- The state after one more answer. -/
def counted (state : DigestState) : DigestState :=
  { state with counter := state.counter + 1, drawn := state.drawn + 1 }

/-- The state with another challenge for a route. -/
def keep (state : DigestState) (route : String) (challenge : Digest.Challenge) : DigestState :=
  { state with challenges := state.challenges.set route challenge }

end DigestState

/-- The answer to a challenge. The counter moves on once the algorithm is known, also when the
quality of protection turns out to be unusable. -/
def Digest.authorize (who : Credentials) (state : DigestState) (challenge : Challenge)
    (method target : String) : Except Error String × DigestState :=
  match hashOf challenge with
  | .error e => (.error e, state)
  | .ok hash =>
    match usesCounter challenge with
    | .error e => (.error e, state.counted)
    | .ok counted =>
      (.ok (answer who challenge hash counted state.counter state.nonce method target), state.counted)

end HttpCourier
