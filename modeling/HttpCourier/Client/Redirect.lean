import HttpCourier.Cookie
import HttpCourier.Fault
import HttpCourier.Message.Response
import HttpCourier.Url.Join

/-!
# Redirects

An answer with one of five statuses and a location asks for another request. `Redirect.request`
builds it: the method may turn into GET, and then there is no body; credentials stay with the origin
they were meant for; and the cookies are those of the new address.
-/

namespace HttpCourier.Redirect

/-- Where an answer redirects to, as it is written. -/
def location? (response : Response) : Option String :=
  if [301, 302, 303, 307, 308].contains response.status then response.fields.text? "Location" else none

/-- The method of the next request. -/
def method (status : Int) (method : String) : String :=
  if (status = 302 ∨ status = 303) ∧ method ≠ "HEAD" then "GET"
  else if status = 301 ∧ method = "POST" then "GET"
  else method

/-- The address of the next request. -/
def url (request : Request) (location : String) : Except Fault Url := do
  let u ← (Url.parse location).mapError fun e =>
    Fault.report .remoteProtocol ("Invalid URL in location header: " ++ e.message ++ ".")
  let u ← if !u.scheme.isEmpty && u.host.isEmpty then
    (u.withHost request.url.hostName).mapError Fault.url else .ok u
  let u ← if u.isAbsolute then .ok u else (Url.join request.url u).mapError Fault.url
  let fragment := request.url.plainFragment
  if !fragment.isEmpty && u.plainFragment.isEmpty then (u.withFragment fragment).mapError Fault.url
  else return u

/-- The port of an address, or the usual one of its scheme. -/
def port? (u : Url) : Option Int :=
  match u.port with
  | some n => some n
  | none => [("http", 80), ("https", 443)].lookup u.scheme

/-- Whether two addresses have the same origin. -/
def sameOrigin (a b : Url) : Bool :=
  a.scheme == b.scheme && a.hostName == b.hostName && port? a == port? b

/-- Whether an address only becomes secure: the host is the same, and the ports are the usual
ones. -/
def becomesSecure (old new : Url) : Bool :=
  old.hostName == new.hostName && old.scheme == "http" && port? old == some 80
    && new.scheme == "https" && port? new == some 443

/-- The fields of the next request, without cookies. -/
def fields (request : Request) (url : Url) (method : String) : Fields :=
  let fields := request.fields
  let fields :=
    if sameOrigin url request.url then fields
    else
      (if becomesSecure request.url url then fields else fields.without "Authorization").putText
        "Host" url.hostAndPort
  let fields :=
    if method ≠ request.method ∧ method = "GET" then
      (fields.without "Content-Length").without "Transfer-Encoding"
    else fields
  fields.without "Cookie"

/-- The next request. A request that turns into GET is made anew, without a body; otherwise the body
is sent again. -/
def request (jar : CookieJar) (response : Response) (location : String) : Except Fault Request := do
  let old := response.request
  let method := method response.status old.method
  let url ← url old location
  let fields ← jar.addTo url (fields old url method)
  if method ≠ old.method ∧ method = "GET" then
    return { method, url, fields := Request.withLeadingFields fields method url, body := .fixed [] }
  else
    return { method, url, fields, encoding := if jar.isEmpty then none else some fields.encoding,
             body := old.body }

end HttpCourier.Redirect
