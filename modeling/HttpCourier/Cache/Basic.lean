import HttpCourier.Cache.Storage
import HttpCourier.Fault
import HttpCourier.Message.Response

/-!
# The cache

The cache stores answers to GET requests and asks the network before it uses one again, with the
conditions that the stored answer allows (RFC 9111). `Cache.plan` says what to do with a request;
`Cache.keep` looks at an answer from the network and stores it if it may; `Cache.refresh` brings a
stored answer up to date when the network confirms it.
-/

namespace HttpCourier

/-- How often the cache was asked, reached the network, and could use what it had. -/
structure CacheStatistics where
  requests : Nat := 0
  network : Nat := 0
  hits : Nat := 0
  deriving DecidableEq, Repr

/-- The cache of a client. -/
structure Cache where
  storage : Storage
  statistics : CacheStatistics := {}

namespace Cache

/-- Bytes that are to be stored as an ASCII text; other bytes are a fault. -/
def checkAscii (bytes : Bytes) : Except Fault Unit :=
  let before := bytes.takeWhile fun b => b.toNat < 128
  match bytes.drop before.length with
  | [] => .ok ()
  | b :: _ => .error (.byteNotAscii before.length b)

/-- The text of a field value. -/
def fieldText (bytes : Bytes) : String := String.ofList (Bytes.latin1 bytes)

/-- The directives of a message. -/
def directives (fields : Fields) : Except Fault CacheControl :=
  (CacheControl.ofValues ((fields.valuesOf "Cache-Control").map fieldText)).mapError Fault.cacheControl

/-- The methods whose requests are known by their address alone. -/
def bodilessMethods : List String := ["GET", "HEAD"]

/-- A request whose body was read: it is sent in one piece. -/
def prepared (request : Request) : Request :=
  if bodilessMethods.contains request.method then request
  else { request with body := .fixed request.body.content }

/-- The address by which an answer is stored: without user information and fragment. -/
def plainAddress (u : Url) : String :=
  u.scheme ++ "://" ++ u.host ++ u.shownPort ++ u.target

/-- The key of a request. -/
def keyOf (request : Request) : CacheKey :=
  { method := request.method, url := plainAddress request.url,
    body := if bodilessMethods.contains request.method then [] else request.body.content }

/-- What to do with a request. -/
inductive Plan where
  /-- It must not reach the network, and there is no answer. -/
  | refuse
  | fetch
  | revalidate (request : Request) (stored : StoredResponse)

/-- The names of the fields that an answer depends on. -/
def varyingNames (fields : Fields) : List String :=
  match fields.valuesOf "Vary" with
  | [] => []
  | value :: _ =>
    (Text.splitOn ',' (Bytes.latin1 value)).map fun s => Text.trim (String.ofList s)

/-- Whether a stored answer suits the fields of a request. -/
def suits (fields : Fields) (stored : StoredResponse) : List String → Except Fault Bool
  | [] => .ok true
  | name :: rest =>
    if name = "*" then .ok false
    else match encodeAscii name.toList with
      | .error e => .error (.notAscii e)
      | .ok _ =>
        if fields.valuesOf name = stored.requestFields.valuesOf name then suits fields stored rest
        else .ok false

/-- A field with the first value of another one, if that is not empty. -/
def condition (name : String) (source : String) (stored : StoredResponse) : Fields :=
  match stored.fields.valuesOf source with
  | [] => []
  | value :: _ => if value.isEmpty then [] else [(Bytes.ofString name, value)]

/-- The conditions under which a stored answer is used again. -/
def conditions (stored : StoredResponse) : Fields :=
  condition "If-Modified-Since" "Last-Modified" stored ++ condition "If-None-Match" "ETag" stored

/-- The request that asks whether a stored answer still holds. -/
def conditional (request : Request) (stored : StoredResponse) : Except Fault Request := do
  let url ← (Url.parse (plainAddress request.url)).mapError Fault.url
  return { request with url, fields := request.fields ++ conditions stored, encoding := none }

/-- Says what to do with a request. -/
def plan (c : Cache) (request : Request) : Except Fault Plan := do
  if !Bytes.isAscii (Bytes.ofString request.method) then throw .methodNotAscii
  let asked ← directives request.fields
  match c.storage.get? (keyOf request) with
  | none => return if asked.onlyIfCached then .refuse else .fetch
  | some stored =>
    let _ ← directives stored.fields
    let isSuitable ← suits request.fields stored (varyingNames stored.fields)
    if asked.onlyIfCached then return .refuse
    if isSuitable then return .revalidate (← conditional request stored) stored
    return .fetch

/-- Whether an answer to a request may be stored. -/
def isStorable (request : Request) (status : Int) (fields : Fields) : Except Fault Bool := do
  if status ≠ 200 ∨ request.method ≠ "GET" then return false
  let answered ← directives fields
  let asked ← directives request.fields
  return !asked.noStore && (!answered.noStore || answered.mustUnderstand) && !answered.isPrivate

/-- The records of what storing did. -/
def changeLog : Storage.Change → List Log.Record
  | .skipped size => [.of "cache" .debug "cache_store_skipped" [("size", .ofNat size)]]
  | .stored evicted => evicted.map fun _ => .of "cache" .debug "cache_entry_evicted"

/-- Stores an answer with its body under a key, if it may be stored; `request` is what was sent. -/
def keep (c : Cache) (key : CacheKey) (request : Request) (response : Response) (body : Bytes) :
    Except Fault (Cache × List Log.Record) := do
  if !(← isStorable request response.status response.fields) then return (c, [])
  if body.length ≤ c.storage.capacity then
    checkAscii (response.phrase.getD [])
  let (storage, change) := c.storage.store key {
    status := response.status, phrase := response.phrase, fields := response.fields, body,
    requestFields := request.fields }
  return ({ c with storage }, changeLog change)

/-- The fields of a stored answer after the network confirmed it: new values replace the old ones of
their name, the length apart, and names that are new come last, with all their values for each time
they occur. -/
def refreshedFields (stored new : Fields) : Fields :=
  let isLength (f : Bytes × Bytes) : Bool := Fields.isNamed "content-length" f
  let values (fields : Fields) (name : Bytes) : List Bytes :=
    (fields.filter fun f => Bytes.toLower f.1 == Bytes.toLower name).map Prod.snd
  let names := (stored.map Prod.fst).eraseDups
  let kept := (names.filter fun n => !isLength (n, [])).flatMap fun n =>
    (match values new n with
      | [] => values stored n
      | vs => vs).map fun v => (n, v)
  kept ++ (new.filter fun f => !names.contains f.1 && !isLength f).flatMap fun f =>
    (values new f.1).map fun v => (f.1, v)

/-- A stored answer after the network confirmed it. -/
def refresh (stored : StoredResponse) (request : Request) (new : Fields) : StoredResponse :=
  { stored with fields := refreshedFields stored.fields new, requestFields := request.fields }

/-- A stored answer as a response. -/
def answer (request : Request) (stored : StoredResponse) : Response :=
  { request, status := stored.status, phrase := stored.phrase, fields := stored.fields,
    wire := { parts := [.chunk stored.body] }, fromNetwork := false, cacheUse := .confirmed }

/-- The answer to a request that must not reach the network. -/
def refusal (request : Request) : Response := { request, status := 504, fromNetwork := false }

end Cache

end HttpCourier
