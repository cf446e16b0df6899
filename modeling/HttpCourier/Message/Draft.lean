import HttpCourier.Cookie
import HttpCourier.Fault

/-!
# Drafts of requests

A `Draft` is a request as it was assembled: a method, the text of an address, header fields and a
body. `Draft.toRequest` makes the request that a client sends from it.
-/

namespace HttpCourier

/-- The body of a draft. -/
structure Draft.Body where
  contentType : Option String := none
  content : Bytes := []
  chunked : Bool := false
  deriving DecidableEq

namespace Draft.Body

/-- The declared length, unless the body is sent chunk by chunk. -/
def length? (b : Draft.Body) : Option Nat := if b.chunked then none else some b.content.length

/-- The pieces of a body. -/
def pieces (b : Draft.Body) (chunkSize : Nat) : List Bytes := Bytes.chunks chunkSize b.content

end Draft.Body

/-- A request before it is sent. -/
structure Draft where
  method : String
  url : String
  headers : Headers := []
  body : Option Draft.Body := none

namespace Draft

/-- How many bytes a chunk has, unless another size is asked for. -/
def defaultChunkSize : Nat := 8192

/-- The header fields of a draft, with those that describe its body. -/
def allHeaders (d : Draft) : Headers :=
  match d.body with
  | none => d.headers
  | some b =>
    d.headers ++ (b.contentType.map fun t => ("Content-Type", t)).toList
      ++ (if !b.chunked && b.content.isEmpty then [("Content-Length", "0")] else [])

/-- The body as it is sent. -/
def sentBody (d : Draft) (chunkSize : Nat) : HttpCourier.Body :=
  match d.body with
  | none => .fixed []
  | some b => if b.chunked then .chunked b.content chunkSize else .fixed b.content

/-- The request of a draft. -/
def toRequest (d : Draft) (jar : CookieJar) (chunkSize : Nat) : Except Fault Request := do
  let url ← (Url.ofRequest d.url).mapError Fault.url
  let given ← (Fields.ofHeaders d.allHeaders).mapError Fault.notAscii
  let fields ← jar.addTo url (Request.mergeDefaults given)
  return Request.make (Text.upper d.method) url fields (d.sentBody chunkSize)

end Draft

end HttpCourier
