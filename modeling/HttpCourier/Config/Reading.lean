import HttpCourier.Config.Basic
import HttpCourier.Config.Scalar
import HttpCourier.Number.Shortest

/-!
# Reading a configuration

`Config.read` turns configuration data into a `Config`, or lists what is wrong with it: the fields
in their order, then the keys that are not known. What holds between several fields is checked when
each of them is accepted.
-/

namespace HttpCourier.Config

open Text

/-- The entries of a section. -/
abbrev Entries := List (Data × Data)

/-- A field of a section that may be missing. -/
def field {α : Type} (name : String) (default : α) (read : Data → Verdict α) (entries : Entries) :
    Verdict α :=
  match Data.lookup name entries with
  | none => .accepted default
  | some d => (read d).under name

/-- A field that a section must have. -/
def needed {α : Type} (name : String) (read : Data → Verdict α) (entries : Entries) : Verdict α :=
  match Data.lookup name entries with
  | none => (Verdict.issue "missing" "Field required").under name
  | some d => (read d).under name

/-- A key as it is shown in the place of an issue. -/
def shownKey : Data → String
  | .null => "None"
  | .flag b => if b then "1" else "0"
  | .whole n => toString n
  | .real x => x.text
  | .text s => s
  | .torn t => t.shown
  | .bytes b => quotedBytes b
  | .list _ => "()"
  | .map _ => "\x7b\x7d"
  | .other _ shown => shown

/-- The issue of a key that a section does not have. -/
def unknownKey (names : List String) (key : Data) : Option Issue :=
  match wordsOf? key with
  | some (some s) =>
    if names.contains (String.ofList s) then none
    else some {
      place := [shownKey key], message := "Extra inputs are not permitted", kind := "extra_forbidden" }
  | _ => some { place := [shownKey key], message := "Keys should be strings", kind := "invalid_key" }

/-- Reads a section: its fields, the names it knows, and the name of its model. A key with
surrogates is an issue of the section, and its only one. -/
def readSection {α : Type} (model : String) (names : List String) (fields : Entries → Verdict α)
    (d : Data) : Verdict α :=
  match d with
  | .map entries =>
    if entries.any fun e => e.1.isTorn then (fields entries).replacedBy [notUnicode]
    else (fields entries).withIssues (entries.filterMap fun e => unknownKey names e.1)
  | _ => .issue "model_type" ("Input should be a valid dictionary or instance of " ++ model)

/-- An issue that a check of this library found. -/
def objection {α : Type} (words : String) : Verdict α :=
  .issue "value_error" ("Value error, " ++ words)

/-- Reads whether a proxy is spoken to securely. -/
def readScheme : Data → Verdict Bool
  | .text "http" => .accepted false
  | .text "https" => .accepted true
  | .torn _ => .rejected [notUnicode]
  | _ => .issue "literal_error" "Input should be 'http' or 'https'"

/-- A proxy's name and password come together. -/
def checkProxy (p : Proxy) : Verdict Proxy :=
  if isSet p.username = isSet p.password then .accepted p
  else objection "If proxy username or proxy password is set, both must be set"

/-- Reads a proxy. -/
def readProxy (d : Data) : Verdict Proxy :=
  (readSection "ProxyConfig" ["type", "host", "port", "username", "password"] (fun e =>
    Proxy.mk <$> field "type" false readScheme e <*> needed "host" readFullText e
      <*> needed "port" readPort e <*> field "username" none (readOptional readLoose) e
      <*> field "password" none (readOptional readLoose) e) d).andThen checkProxy

/-- Reads the files with keys and certificates. -/
def readTls : Data → Verdict Tls :=
  readSection "TlsConfig"
    ["keystore_path", "keystore_key_path", "keystore_password", "truststore_path"] fun e =>
      Tls.mk <$> field "keystore_path" none (readOptional readPath) e
        <*> field "keystore_key_path" none (readOptional readPath) e
        <*> field "keystore_password" none (readOptional readLoose) e
        <*> field "truststore_path" none (readOptional readPath) e

/-- Whether a character may stand in a user's name. -/
def isNameChar (c : Char) : Bool := decide (32 ≤ c.toNat) && c.toNat != 127 && c != ':'

/-- Whether a code point may stand in a user's name. -/
def isNamePoint (p : CodePoint) : Bool := p.char?.all isNameChar

/-- Reads a user's name. -/
def readUsername (d : Data) : Verdict LooseText :=
  (readLoose d).andThen fun s =>
    if s.points.all isNamePoint then .accepted s
    else objection "Username cannot include control characters, ':' or DEL"

/-- Reads credentials. -/
def readAuth : Data → Verdict Auth :=
  readSection "AuthConfig" ["username", "password", "ntlm_domain", "use_ntlm", "use_digest"] fun e =>
    Auth.mk <$> field "username" "" readUsername e <*> field "password" "" readLoose e
      <*> field "ntlm_domain" "" readLoose e <*> field "use_ntlm" false readSwitch e
      <*> field "use_digest" false readSwitch e

/-- Reads the size of a cache; a text may have a unit. -/
def readSize (d : Data) : Verdict Nat :=
  match DataSize.ofData d with
  | .ok d => readPositive d
  | .error (.badText s) => objection (DataSize.Error.badText s).message
  | .error e => .broken (.size e)

/-- Reads the settings of the cache. -/
def readCache : Data → Verdict Cache :=
  readSection "CacheConfig" ["enabled", "max_size_bytes"] fun e =>
    Cache.mk <$> field "enabled" false readSwitch e
      <*> field "max_size_bytes" (10 * 1024 * 1024) readSize e

/-- A proxy that is spoken to securely needs certificates. -/
def checkTransport (t : Transport) : Verdict Transport :=
  if t.proxy.any (·.secure) && t.tls.isNone then
    objection "If proxy type is https, TLS configuration must be set"
  else .accepted t

/-- Reads how requests are sent. -/
def readTransport (d : Data) : Verdict Transport :=
  (readSection "TransportConfig" ["connect_timeout_seconds", "read_timeout_seconds",
      "follow_redirects", "proxy", "tls", "auth", "cache"] (fun e =>
    Transport.mk <$> field "connect_timeout_seconds" (.ofNat 5) readTimeout e
      <*> field "read_timeout_seconds" (.ofNat 15) readTimeout e
      <*> field "follow_redirects" true readSwitch e
      <*> field "proxy" none (readOptional readProxy) e
      <*> field "tls" none (readOptional readTls) e
      <*> field "auth" {} readAuth e <*> field "cache" {} readCache e) d).andThen checkTransport

/-- The trimmed text, or nothing when it is blank. -/
def trimmed? (s : Option String) : Option String :=
  (s.map trim).filter fun t => !t.isEmpty

/-- Reads the pattern of the attributes to send. -/
def readPattern (d : Data) : Verdict (Option String) :=
  (readOptional readShown d).andThen fun s =>
    match trimmed? s with
    | none => .accepted none
    | some text =>
      match Pattern.read text with
      | .ok _ => .accepted (some text)
      | .error e =>
        match e.cause with
        | .tooManyRounds => .broken (.pattern e text)
        | .twoRepertoires => objection (e.message text)
        | _ => objection ("Invalid regex pattern: " ++ e.message text)

/-- The names that no configured header may have, with the advice for each. -/
def excludedHeaders : List (String × String) :=
  [("Trusted Hostname", "Configure TLS trust material on the transport instead.")]

/-- Reads one configured header. -/
def readHeader (entry : Data × Data) : Verdict (String × String) :=
  let (key, value) := entry
  (Prod.mk <$> (readShown key).under "[key]" <*> readShown value).under (shownKey key)

/-- Reads the entries of a mapping in their order. -/
def readHeaders : Entries → Verdict (List (String × String))
  | [] => .accepted []
  | entry :: rest => List.cons <$> readHeader entry <*> readHeaders rest

/-- Reads the configured headers. -/
def readDynamicHeaders (d : Data) : Verdict (OrderedMap String String) :=
  match d with
  | .map entries =>
    (readHeaders entries).andThen fun pairs =>
      let headers := OrderedMap.ofPairs pairs
      match headers.keys.find? fun k => excludedHeaders.any fun x => x.1 == k with
      | some name => objection ("Header '" ++ name ++ "' matches excluded HTTP header name")
      | none => .accepted headers
  | _ => .issue "dict_type" "Input should be a valid dictionary"

/-- Reads how a request is made. -/
def readRequest : Data → Verdict Request :=
  readSection "RequestConfig" ["method", "url", "content_type", "send_body", "use_chunked_encoding",
      "include_date_header", "attributes_to_send", "dynamic_headers"] fun e =>
    Request.mk <$> field "method" "GET" readFullText e <*> needed "url" readFullText e
      <*> field "content_type" "$\x7bmime.type\x7d" readShown e
      <*> field "send_body" true readSwitch e
      <*> field "use_chunked_encoding" false readSwitch e
      <*> field "include_date_header" true readSwitch e
      <*> field "attributes_to_send" none readPattern e
      <*> field "dynamic_headers" [] readDynamicHeaders e

/-- Reads a configuration. -/
def read : Data → Verdict Config :=
  readSection "InvokeHttpConfig" ["request", "transport", "put_response_body_in_attribute",
      "max_attribute_length", "always_output_response", "add_response_headers",
      "penalize_no_retry"] fun e =>
    Config.mk <$> needed "request" readRequest e <*> field "transport" {} readTransport e
      <*> field "put_response_body_in_attribute" none
        (fun d => (readOptional readShown d).map trimmed?) e
      <*> field "max_attribute_length" 256 readPositive e
      <*> field "always_output_response" false readSwitch e
      <*> field "add_response_headers" false readSwitch e
      <*> field "penalize_no_retry" false readSwitch e

/-- A configuration cannot be changed. -/
def frozen (name : String) : Issue :=
  { place := [name], message := "Instance is frozen", kind := "frozen_instance" }

end HttpCourier.Config
