import HttpCourier.Message.Request
import HttpCourier.Stream.Body

/-!
# Responses

A `Response` is the answer to a request: a status with its phrase, header fields, and a body that is
still on the wire. Over a secure connection the other side may have shown a certificate, whose
subject names it.
-/

namespace HttpCourier

/-- What is known of the other side of a connection. -/
inductive Peer where
  /-- There is no connection, or it is not secure, or no certificate was shown. -/
  | unknown
  /-- The subject of a certificate: groups of keys with values. -/
  | subject (groups : List (List (String × String)))

namespace Peer

/-- The short names of the keys in a subject. -/
def shortNames : List (String × String) :=
  [("commonName", "CN"), ("organizationName", "O"), ("organizationalUnitName", "OU"),
    ("countryName", "C"), ("stateOrProvinceName", "ST"), ("localityName", "L"),
    ("emailAddress", "EMAILADDRESS"), ("domainComponent", "DC")]

/-- A key with its value. -/
def part (entry : String × String) : String :=
  (shortNames.lookup entry.1).getD entry.1 ++ "=" ++ entry.2

/-- The name of the other side: the groups of the subject from last to first. -/
def name? : Peer → Option String
  | unknown => none
  | subject groups =>
    let name := ",".intercalate (groups.reverse.flatMap fun g => g.map part)
    if name.isEmpty then none else some name

end Peer

/-- The phrases of the known statuses. -/
def statusPhrases : List (Int × String) :=
  [(100, "Continue"), (101, "Switching Protocols"), (102, "Processing"), (103, "Early Hints"),
    (200, "OK"), (201, "Created"), (202, "Accepted"), (203, "Non-Authoritative Information"),
    (204, "No Content"), (205, "Reset Content"), (206, "Partial Content"), (207, "Multi-Status"),
    (208, "Already Reported"), (226, "IM Used"), (300, "Multiple Choices"),
    (301, "Moved Permanently"), (302, "Found"), (303, "See Other"), (304, "Not Modified"),
    (305, "Use Proxy"), (307, "Temporary Redirect"), (308, "Permanent Redirect"),
    (400, "Bad Request"), (401, "Unauthorized"), (402, "Payment Required"), (403, "Forbidden"),
    (404, "Not Found"), (405, "Method Not Allowed"), (406, "Not Acceptable"),
    (407, "Proxy Authentication Required"), (408, "Request Timeout"), (409, "Conflict"),
    (410, "Gone"), (411, "Length Required"), (412, "Precondition Failed"),
    (413, "Request Entity Too Large"), (414, "Request-URI Too Long"),
    (415, "Unsupported Media Type"), (416, "Requested Range Not Satisfiable"),
    (417, "Expectation Failed"), (418, "I'm a teapot"), (421, "Misdirected Request"),
    (422, "Unprocessable Entity"), (423, "Locked"), (424, "Failed Dependency"), (425, "Too Early"),
    (426, "Upgrade Required"), (428, "Precondition Required"), (429, "Too Many Requests"),
    (431, "Request Header Fields Too Large"), (451, "Unavailable For Legal Reasons"),
    (500, "Internal Server Error"), (501, "Not Implemented"), (502, "Bad Gateway"),
    (503, "Service Unavailable"), (504, "Gateway Timeout"), (505, "HTTP Version Not Supported"),
    (506, "Variant Also Negotiates"), (507, "Insufficient Storage"), (508, "Loop Detected"),
    (510, "Not Extended"), (511, "Network Authentication Required")]

/-- What a cache had to do with an answer. -/
inductive CacheUse where
  | none
  /-- The answer was fetched, and no stored one was asked about. -/
  | fetched
  /-- The answer was fetched in place of a stored one. -/
  | replaced
  /-- The answer is a stored one that the network confirmed. -/
  | confirmed
  deriving DecidableEq, Repr

/-- The answer to a request. -/
structure Response where
  request : Request
  status : Int
  /-- The phrase as it was sent, if one was. -/
  phrase : Option Bytes := none
  fields : Fields := []
  peer : Peer := .unknown
  wire : Wire := {}
  /-- When the answer arrived, in seconds since the start of 1970. -/
  time : Int := 0
  /-- Whether the body arrives from the network. -/
  fromNetwork : Bool := true
  cacheUse : CacheUse := .none

namespace Response

/-- The phrase of the status: as it was sent, without what is not ASCII, or the usual one. -/
def statusPhrase (r : Response) : String :=
  match r.phrase with
  | some bytes => String.ofList (Bytes.latin1 (bytes.filter fun b => b.toNat < 128))
  | none => (statusPhrases.lookup r.status).getD ""

/-- Whether the answer is a stored one. -/
def fromCache (r : Response) : Bool := r.cacheUse == .confirmed

/-- The name of the other side of a secure exchange. -/
def peerName? (r : Response) : Option String :=
  if r.request.url.scheme = "https" then r.peer.name? else none

end Response

end HttpCourier
