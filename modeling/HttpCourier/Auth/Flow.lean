import HttpCourier.Auth.Selection
import HttpCourier.Cookie
import HttpCourier.Log.Record
import HttpCourier.Message.Response

/-!
# Answering challenges

An `AuthFlow` is the state of an exchange that may be challenged: `start` readies the first request,
and `resume` looks at each answer and gives the next request, if there is to be one. A Digest
challenge is kept for the route of the request, so that later requests can answer it at once.
-/

namespace HttpCourier

open Text

/-- What an exchange waits for. -/
inductive AuthFlow where
  /-- No challenge is answered any more. -/
  | finished
  | digest (who : Digest.Credentials) (route : String) (request : Request)
  /-- An offer of the scheme is awaited. -/
  | ntlmOffer (request : Request)
  /-- The server's token is awaited. -/
  | ntlmToken (scheme : String) (request : Request)

namespace AuthFlow

/-- The status of a challenge. -/
def unauthorized : Int := 401

/-- The field that carries challenges. -/
def challengeField : String := "www-authenticate"

/-- A request with the answer to a challenge. -/
def answered (request : Request) (value : String) : Except Fault Request :=
  (request.putField "Authorization" value).mapError Fault.notAscii

/-- A request with the credentials of its own address, if it has some. -/
def withOwnCredentials (request : Request) : Except Fault Request :=
  let (username, password) := request.url.credentials
  if username.isEmpty && password.isEmpty then .ok request
  else answered request
    ("Basic " ++ String.ofList (Base64.encode (Bytes.ofChars (username ++ ':' :: password))))

/-- The answer to a Digest challenge, and the request that carries it. -/
def authorize (who : Digest.Credentials) (state : DigestState) (challenge : Digest.Challenge)
    (request : Request) : Except Fault Request × DigestState :=
  match Digest.authorize who state challenge request.method request.url.target with
  | (.ok value, state) => (answered request value, state)
  | (.error e, state) => (.error (.digest e), state)

/-- Readies the first request. -/
def start (choice : Authenticator) (state : DigestState) (request : Request) :
    Except Fault (Request × AuthFlow) × DigestState :=
  match choice with
  | .none | .basic _ => ((withOwnCredentials request).map fun r => (r, finished), state)
  | .ntlm _ => (.ok (request, ntlmOffer request), state)
  | .digest who =>
    let route := request.url.route
    match state.challenges.get? route with
    | none => (.ok (request, digest who route request), state)
    | some challenge =>
      let (result, state) := authorize who state challenge request
      (result.map fun r => (r, digest who route r), state)

/-- The first Digest challenge of an answer. -/
def digestChallenge? (response : Response) : Option String :=
  (response.fields.textsOf challengeField).find? fun v => (lower v).startsWith "digest "

/-- A request with the cookies that an answer sets, unless it has its own. -/
def withCookiesOf (response : Response) (request : Request) : Except Fault Request :=
  let jar := CookieJar.addAll { now := response.time } response.request.url response.fields
  match request.fields.has "Cookie", jar.field? request.url with
  | false, some cookies => (request.putField "Cookie" cookies).mapError Fault.notAscii
  | _, _ => .ok request

/-- Answers a Digest challenge: it is kept for the route, and the counter starts again. -/
def answerDigest (who : Digest.Credentials) (route : String) (request : Request)
    (response : Response) (value : String) (state : DigestState) :
    Except Fault Request × DigestState × List Log.Record :=
  match Digest.Challenge.ofField value with
  | .error e => (.error (.digest e), state, [])
  | .ok challenge =>
    let state := { state.keep route challenge with counter := 1 }
    let log := [Log.Record.of "auth" .debug "digest_challenge_cached" [("route", .text route)]]
    let (result, state) := authorize who state challenge request
    (result >>= withCookiesOf response, state, log)

/-- Looks at an answer: the next request, unless the exchange is over. -/
def resume (flow : AuthFlow) (state : DigestState) (response : Response) :
    Except Fault (Option (Request × AuthFlow)) × DigestState × List Log.Record :=
  match flow with
  | finished => (.ok none, state, [])
  | digest who route request =>
    if response.status ≠ unauthorized then (.ok none, state, [])
    else match digestChallenge? response with
      | none => (.ok none, state, [])
      | some value =>
        let (result, state, log) := answerDigest who route request.seen response value state
        (result.map fun r => some (r, finished), state, log)
  | ntlmOffer request =>
    if response.status ≠ unauthorized then (.ok none, state, [])
    else match Ntlm.scheme? (response.fields.textsOf challengeField) with
      | none => (.ok none, state, [])
      | some scheme =>
        ((answered request.seen (Ntlm.tokenField scheme (Ntlm.messageHead 1))).map fun r =>
          some (r, ntlmToken scheme r), state, [])
  | ntlmToken scheme request =>
    let next : Except Fault (Option (Request × AuthFlow)) := do
      let token ← (Ntlm.serverToken (response.fields.textsOf challengeField) scheme).mapError Fault.ntlm
      match token with
      | some token =>
        if response.status ≠ unauthorized then return none
        let message ← (Ntlm.closing token).mapError Fault.ntlm
        let request ← answered request.seen (Ntlm.tokenField scheme message)
        return some (request, finished)
      | none => return none
    (next, state, [])

end AuthFlow

end HttpCourier
