import HttpCourier.Message.Fields
import HttpCourier.Url.Basic

/-!
# Requests and responses

A `Request` is what is handed to the network. Its body is sent in one piece, or chunk by chunk
without a declared length. `Request.build` merges the fields a client always sends with those given
and adds the fields that describe the body and the host.
-/

namespace HttpCourier

/-- The body of a request. -/
inductive Body where
  | fixed (content : Bytes)
  | chunked (content : Bytes) (chunkSize : Nat)
  deriving DecidableEq

namespace Body

/-- The bytes of a body. -/
def content : Body → Bytes
  | fixed content => content
  | chunked content _ => content

/-- The pieces in which a body is sent: a fixed one is a single piece, even when it is empty. -/
def pieces : Body → List Bytes
  | fixed content => [content]
  | chunked content chunkSize => Bytes.chunks chunkSize content

end Body

/-- A request. `encoding` is fixed once its fields were read as text. -/
structure Request where
  method : String
  url : Url
  fields : Fields
  encoding : Option TextEncoding := none
  body : Body := .fixed []

namespace Request

/-- The fields that are sent with every request that does not have its own. Bodies that come
compressed for the second of them are taken out of their coding before they are a `Wire`. -/
def defaultFields : Headers :=
  [("Accept", "*/*"), ("Accept-Encoding", "gzip, deflate"), ("Connection", "keep-alive"),
    ("User-Agent", "python-httpx/0.28.1")]

/-- The given fields after the default ones whose names are not given. -/
def mergeDefaults (given : Fields) : Fields :=
  let defaults := defaultFields.map fun (n, v) => (Bytes.ofString n, Bytes.ofString v)
  (defaults.filter fun d => !given.any fun g => Bytes.toLower g.1 == Bytes.toLower d.1) ++ given

/-- Whether a request of this method declares that it has no body. -/
def declaresEmptyBody (method : String) : Bool := ["POST", "PUT", "PATCH"].contains method

/-- The fields that describe a body, unless they are given. -/
def withBodyFields (fields : Fields) (body : Body) : Fields :=
  match body with
  | .fixed [] => fields
  | .fixed content => fields.putNew "Content-Length" (toString content.length)
  | .chunked _ _ =>
    if fields.has "Content-Length" then fields else fields.putNew "Transfer-Encoding" "chunked"

/-- The fields with the host, and the length of a missing body, in front. -/
def withLeadingFields (fields : Fields) (method : String) (url : Url) : Fields :=
  let host := if fields.has "Host" || url.host.isEmpty then []
    else [(Bytes.ofString "Host", Bytes.ofString url.hostAndPort)]
  let length :=
    if fields.has "Content-Length" || fields.has "Transfer-Encoding"
        || !declaresEmptyBody method then []
    else [(Bytes.ofString "Content-Length", Bytes.ofString "0")]
  host ++ length ++ fields

/-- A request of merged fields. -/
def make (method : String) (url : Url) (fields : Fields) (body : Body) : Request :=
  { method, url, fields := withLeadingFields (withBodyFields fields body) method url, body }

/-- The encoding in which the fields of a request are read. -/
def readEncoding (r : Request) : TextEncoding := r.encoding.getD r.fields.encoding

/-- The request after its fields were read as text. -/
def seen (r : Request) : Request := { r with encoding := some r.readEncoding }

/-- Writes a field in the encoding of the request; without one any text may be written. -/
def putField (r : Request) (name value : String) : Except NotAscii Request := do
  let e := r.encoding.getD .utf8
  let name ← e.encode name.toList
  let value ← e.encode value.toList
  return { r with fields := r.fields.put name value }

end Request

end HttpCourier
