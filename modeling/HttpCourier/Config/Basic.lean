import HttpCourier.Item.Expression
import HttpCourier.Number.Binary64
import HttpCourier.Text.Loose

/-!
# Configuration

A `Config` is what one cycle of scheduling works with: how requests are made (`Config.Request`), how
they are sent (`Config.Transport`), and what is done with answers.
-/

namespace HttpCourier

namespace Config

/-- A proxy server. -/
structure Proxy where
  secure : Bool := false
  host : String
  port : Nat
  username : Option LooseText := none
  password : Option LooseText := none

/-- The scheme in which a proxy is spoken to. -/
def Proxy.scheme (p : Proxy) : String := if p.secure then "https" else "http"

/-- The address of a proxy, without credentials. -/
def Proxy.address (p : Proxy) : String := p.scheme ++ "://" ++ p.host ++ ":" ++ toString p.port

/-- Whether an optional text is there and not empty. -/
def isSet (s : Option LooseText) : Bool := s.any fun t => !t.isEmpty

/-- Whether a proxy asks for credentials. -/
def Proxy.hasCredentials (p : Proxy) : Bool := isSet p.username

/-- Files with a key and its certificates, and with the certificates to trust. -/
structure Tls where
  keystorePath : Option LooseText := none
  keystoreKeyPath : Option LooseText := none
  keystorePassword : Option LooseText := none
  truststorePath : Option LooseText := none

/-- The files that are named. -/
def Tls.paths (t : Tls) : List LooseText :=
  [t.keystorePath, t.keystoreKeyPath, t.truststorePath].filterMap id

/-- Credentials of a user. -/
structure Auth where
  username : LooseText := ""
  password : LooseText := ""
  ntlmDomain : LooseText := ""
  useNtlm : Bool := false
  useDigest : Bool := false

/-- The cache of responses. -/
structure Cache where
  enabled : Bool := false
  maxBytes : Nat := 10485760

/-- How requests are sent. -/
structure Transport where
  connectTimeout : Binary64 := Binary64.ofNat 5
  readTimeout : Binary64 := Binary64.ofNat 15
  followRedirects : Bool := true
  proxy : Option Proxy := none
  tls : Option Tls := none
  auth : Auth := {}
  cache : Cache := {}

/-- How the request for a work item is made; texts may hold placeholders. -/
structure Request where
  method : String := "GET"
  url : String
  contentType : String := "$\x7bmime.type\x7d"
  sendBody : Bool := true
  chunked : Bool := false
  dateField : Bool := true
  attributesToSend : Option String := none
  dynamicHeaders : OrderedMap String String := []

end Config

/-- The configuration of one cycle of scheduling. -/
structure Config where
  request : Config.Request
  transport : Config.Transport := {}
  bodyAttribute : Option String := none
  maxAttributeLength : Nat := 256
  alwaysOutputResponse : Bool := false
  addResponseHeaders : Bool := false
  penalizeNoRetry : Bool := false

end HttpCourier
