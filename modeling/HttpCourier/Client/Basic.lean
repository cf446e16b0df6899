import HttpCourier.Auth.Flow
import HttpCourier.Cache.Basic
import HttpCourier.Client.Redirect
import HttpCourier.Message.Draft
import HttpCourier.Network

/-!
# The client

A `Client` sends requests over a network: through its cache, if it has one, with its cookies, along
redirects, and answering challenges. `Link` is a client with the network it uses and the log of what
they did; `Link.send` is the whole of an exchange, up to the body of the last answer.
-/

namespace HttpCourier

/-- A client. -/
structure Client where
  authenticator : Authenticator := .none
  followsRedirects : Bool := false
  digest : DigestState := {}
  jar : CookieJar := {}
  cache : Option Cache := none
  closed : Bool := false

/-- A client and the network it uses. -/
structure Link where
  client : Client
  network : Network
  log : List Log.Record := []

namespace Link

/-- Adds records to the log. -/
def note (records : List Log.Record) : Step Link Unit :=
  modify fun l => { l with log := l.log ++ records }

/-- The cookies of the client at the present time. -/
def cookies (l : Link) : CookieJar := l.client.jar.asOf l.network.now

/-- Hands a request to the network. -/
def ask (request : Request) : Step Link Response := do
  let l ← get
  let (result, network) := l.network.send request
  set { l with network }
  Step.ofExcept (result.mapError Fault.failure)

/-- Records what became of the body of an answer. -/
def settle (response : Response) (wire : Wire) : Step Link Unit :=
  if response.fromNetwork then modify fun l => { l with network := l.network.settle wire }
  else return ()

/-- Reads the body of an answer that nobody else reads; after a failure the answer is closed. -/
def readAll (response : Response) : Step Link Bytes := do
  let (result, wire) := response.wire.readAll
  settle response wire
  Step.ofExcept (result.mapError Fault.failure)

/-- Closes an answer whose body is not read. -/
def abandon (response : Response) : Step Link Unit := settle response response.wire.close

/-- Runs an operation that looks at an answer; after a fault the answer is closed. -/
def guarding {α : Type} (response : Response) (step : Step Link α) : Step Link α := do
  match ← step.attempt with
  | .ok a => return a
  | .error fault =>
    abandon response
    throw fault

/-- Changes the cache. -/
def setCache (cache : Cache) : Step Link Unit :=
  modify fun l => { l with client := { l.client with cache := some cache } }

/-- Hands a request of the cache to the network and reads the body of the answer. After a failure
the answer stays open. -/
def fetch (cache : Cache) (request : Request) : Step Link (Response × Bytes) := do
  setCache { cache with
    statistics := { cache.statistics with network := cache.statistics.network + 1 } }
  let response ← ask request
  let (result, wire) := response.wire.drain []
  settle response (if result.isOk then wire.close else wire)
  let body ← Step.ofExcept (result.mapError Fault.failure)
  return ({ response with
    wire := { parts := [.chunk body] }, fromNetwork := false, cacheUse := .fetched }, body)

/-- Stores an answer in the cache, if it may be stored. -/
def keep (key : CacheKey) (request : Request) (response : Response) (body : Bytes) :
    Step Link Unit := do
  match (← get).client.cache with
  | none => return ()
  | some cache =>
    let (cache, log) ← Step.ofExcept (cache.keep key request response body)
    setCache cache
    note log

/-- Answers a request with a stored answer, if the network confirms it, and with the answer of the
network otherwise. -/
def revalidate (cache : Cache) (request conditional : Request) (stored : StoredResponse) :
    Step Link Response := do
  let (response, body) ← fetch cache conditional
  let key := Cache.keyOf request
  if response.status = 304 then
    let refreshed := Cache.refresh stored conditional response.fields
    match (← get).client.cache with
    | some c => setCache { c with storage := c.storage.replace key refreshed }
    | none => pure ()
    return Cache.answer request refreshed
  else
    keep key conditional response body
    return { response with request, cacheUse := .replaced }

/-- Answers a request from the cache or from the network. -/
def throughCache (cache : Cache) (request : Request) : Step Link Response := do
  let plan ← Step.ofExcept (cache.plan request)
  match plan with
  | .refuse => return Cache.refusal request
  | .fetch =>
    let (response, body) ← fetch cache request
    keep (Cache.keyOf request) request response body
    return response
  | .revalidate conditional stored => revalidate cache request conditional stored

/-- Counts an answer of the cache, and notes when it was a stored one. -/
def countAnswer (response : Response) : Step Link Unit := do
  match (← get).client.cache with
  | none => return ()
  | some cache =>
    let s := cache.statistics
    setCache { cache with
      statistics := { s with
        requests := s.requests + 1, hits := s.hits + if response.fromCache then 1 else 0 } }
    if response.fromCache then
      note [.of "cache" .debug "cache_hit"
        [("url", .text response.request.url.toString), ("revalidated", .flag true)]]

/-- Answers a request. -/
def transmit (request : Request) : Step Link Response := do
  match (← get).client.cache with
  | none => ask request
  | some cache =>
    let response ← throughCache cache (Cache.prepared request)
    countAnswer response
    return response

/-- Answers a request, and keeps the cookies of the answer. -/
def sendOne (request : Request) : Step Link Response := do
  let response ← transmit request
  let request := response.request.seen
  if !CookieJar.knows request.url then
    throw (.unknownUrlType request.url.toString)
  let l ← get
  set { l with client := { l.client with jar := l.cookies.addAll request.url response.fields } }
  return { response with request, time := l.network.now }

/-- How many redirects are followed. -/
def maxRedirects : Nat := 20

/-- Sends a request and follows the redirects; `left` bounds the requests that may still be sent. -/
def follow : (left : Nat) → Request → Step Link Response
  | 0, _ => throw (.report .tooManyRedirects "Exceeded maximum allowed redirects.")
  | left + 1, request => do
    let response ← sendOne request
    match Redirect.location? response with
    | none => return response
    | some location =>
      let l ← get
      let next ← guarding response (Step.ofExcept (Redirect.request l.cookies response location))
      if l.client.followsRedirects then
        let _ ← readAll response
        follow left next
      else return response

/-- Looks at an answer with an authentication flow. -/
def resume (flow : AuthFlow) (response : Response) : Step Link (Option (Request × AuthFlow)) := do
  let l ← get
  let (result, digest, log) := flow.resume l.client.digest response
  set { l with client := { l.client with digest }, log := l.log ++ log }
  Step.ofExcept result

/-- Sends a request and answers the challenges to it; `left` bounds the requests that may still be
sent, and `rounds` the challenges. -/
def converse : (rounds left : Nat) → Request → AuthFlow → Step Link Response
  | 0, left, request, _ => follow left request
  | rounds + 1, left, request, flow => do
    let response ← follow left request
    match ← guarding response (resume flow response) with
    | none => return response
    | some (request, flow) =>
      let _ ← readAll response
      converse rounds (left - 1) request flow

/-- How many challenges an exchange answers at most. -/
def maxChallenges : Nat := 2

/-- Sends a request. -/
def send (request : Request) : Step Link Response := do
  let l ← get
  if l.client.closed then throw .clientClosed
  let (result, digest) := AuthFlow.start l.client.authenticator l.client.digest request
  set { l with client := { l.client with digest } }
  let (request, flow) ← Step.ofExcept result
  converse maxChallenges (maxRedirects + 1) request flow

end Link

end HttpCourier
