import HttpCourier.Config.Basic
import HttpCourier.Config.Data

/-!
# Configurations as documents

`Config.document` writes a configuration with all its settings as data, in the order in which the
settings are declared. Headers are pairs, so that their order is part of the document.
-/

namespace HttpCourier.Config

open Data

/-- Named settings. -/
def settings (entries : List (String × Data)) : Data := .map (entries.map fun e => (text e.1, e.2))

/-- A text, or nothing. -/
def optional (s : Option LooseText) : Data := s.elim null ofLoose

/-- A proxy server as data. -/
def Proxy.document (p : Proxy) : Data :=
  settings [("type", text p.scheme), ("host", text p.host), ("port", whole p.port),
    ("username", optional p.username), ("password", optional p.password)]

/-- Files for secure connections as data. -/
def Tls.document (t : Tls) : Data :=
  settings [("keystore_path", optional t.keystorePath), ("keystore_key_path", optional t.keystoreKeyPath),
    ("keystore_password", optional t.keystorePassword), ("truststore_path", optional t.truststorePath)]

/-- Credentials as data. -/
def Auth.document (a : Auth) : Data :=
  settings [("username", ofLoose a.username), ("password", ofLoose a.password),
    ("ntlm_domain", ofLoose a.ntlmDomain), ("use_ntlm", flag a.useNtlm), ("use_digest", flag a.useDigest)]

/-- The settings of a cache as data. -/
def Cache.document (c : Cache) : Data :=
  settings [("enabled", flag c.enabled), ("max_size_bytes", whole c.maxBytes)]

/-- How requests are sent, as data. -/
def Transport.document (t : Transport) : Data :=
  settings [("connect_timeout_seconds", real t.connectTimeout),
    ("read_timeout_seconds", real t.readTimeout),
    ("follow_redirects", flag t.followRedirects), ("proxy", t.proxy.elim null Proxy.document),
    ("tls", t.tls.elim null Tls.document), ("auth", t.auth.document), ("cache", t.cache.document)]

/-- How requests are made, as data. -/
def Request.document (r : Request) : Data :=
  settings [("method", text r.method), ("url", text r.url), ("content_type", text r.contentType),
    ("send_body", flag r.sendBody), ("use_chunked_encoding", flag r.chunked),
    ("include_date_header", flag r.dateField), ("attributes_to_send", r.attributesToSend.elim null text),
    ("dynamic_headers", list (r.dynamicHeaders.map fun h => list [text h.1, text h.2]))]

/-- A configuration as data. -/
def document (c : Config) : Data :=
  settings [("request", c.request.document), ("transport", c.transport.document),
    ("put_response_body_in_attribute", c.bodyAttribute.elim null text),
    ("max_attribute_length", whole c.maxAttributeLength),
    ("always_output_response", flag c.alwaysOutputResponse),
    ("add_response_headers", flag c.addResponseHeaders), ("penalize_no_retry", flag c.penalizeNoRetry)]

end HttpCourier.Config
