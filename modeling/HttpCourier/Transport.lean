import HttpCourier.Client.Basic

/-!
# Transports

A `Transport` is a client with all that its configuration asks for: material for secure connections,
a proxy, a cache and a way to authenticate. `Transport.build` makes one or says why it cannot; a
built transport is used until it is closed.
-/

namespace HttpCourier

/-- The way through a proxy. -/
structure ProxyRoute where
  url : Url
  credentials : Option (LooseText × LooseText) := none
  secure : Bool := false

namespace ProxyRoute

/-- The way through a configured proxy. Credentials in its address are used before configured ones,
and are not part of the way's own address. -/
def ofConfig (p : Config.Proxy) : Except Fault ProxyRoute := do
  let url ← (Url.parse p.address).mapError Fault.url
  let (username, password) := url.credentials
  if username.isEmpty && password.isEmpty then
    let configured := (p.username.getD default, p.password.getD default)
    return { url, credentials := if p.hasCredentials then some configured else none,
             secure := p.secure }
  else
    let plain ← url.withoutCredentials.mapError Fault.url
    return { url := plain, secure := p.secure,
             credentials := some (.whole (String.ofList username), .whole (String.ofList password)) }

/-- The way with credentials that can be encoded, as connections need them. -/
def encoded (r : ProxyRoute) : Except Unencodable ProxyRoute := do
  if let some (username, password) := r.credentials then
    let _ ← username.checked
    let _ ← password.checked
  return r

end ProxyRoute

/-- Where transports are built. -/
structure Workshop where
  files : Files := []
  /-- What reads files with keys and certificates. -/
  library : Tls.Library
  /-- Whether the connections are the transport's own. -/
  opensConnections : Bool := true
  /-- The nonces that a client draws. -/
  nonces : Nat → UInt64 := fun _ => 0

/-- The way through a proxy from here; connections need its credentials encoded. -/
def Workshop.route (shop : Workshop) (p : Config.Proxy) : Except Fault ProxyRoute := do
  let route ← ProxyRoute.ofConfig p
  if shop.opensConnections then route.encoded.mapError Fault.notUtf8 else return route

/-- A client that was built from a configuration. -/
structure Transport where
  config : Config.Transport
  material : Tls.Material := {}
  proxy : Option ProxyRoute := none
  client : Client

namespace Transport

/-- The cache of a configuration, if it has one. -/
def cacheOf (config : Config.Cache) : Option Cache :=
  if config.enabled then some { storage := { capacity := config.maxBytes } } else none

/-- The record of a transport that was built. -/
def builtRecord (t : Transport) : Log.Record :=
  .of "transport" .info "transport_built"
    [("authenticator", .text t.client.authenticator.name),
      ("proxy", .ofText? (t.config.proxy.map Config.Proxy.address)),
      ("cache_enabled", .flag t.config.cache.enabled),
      ("follow_redirects", .flag t.config.followRedirects),
      ("connect_timeout_seconds", .real t.config.connectTimeout),
      ("read_timeout_seconds", .real t.config.readTimeout)]

/-- Builds a transport; `choose` says how to authenticate. -/
def buildWith (choose : Config.Auth → Except Fault Authenticator) (shop : Workshop)
    (config : Config.Transport) : Except Fault (Transport × List Log.Record) := do
  let (material, log) ← (Tls.load shop.library shop.files config.tls).mapError Fault.tls
  let proxy ← config.proxy.mapM shop.route
  let authenticator ← choose config.auth
  let client : Client := {
    authenticator, followsRedirects := config.followRedirects, cache := cacheOf config.cache
    digest := { nonces := shop.nonces } }
  let t : Transport := { config, material, proxy, client }
  return (t, log ++ [t.builtRecord])

/-- Builds a transport. -/
def build (shop : Workshop) (config : Config.Transport) :
    Except Fault (Transport × List Log.Record) :=
  buildWith (fun auth => (Authenticator.ofConfig auth).mapError Fault.notUtf8) shop config

/-- The transport after it was closed: it sends nothing any more, and its cache is empty. -/
def close (t : Transport) : Transport :=
  { t with client := { t.client with
    closed := true
    cache := t.client.cache.map fun c => { c with storage := { c.storage with entries := [] } } } }

/-- Whether the transport was closed. -/
def closed (t : Transport) : Bool := t.client.closed

/-- What the cache counted, if there is one. -/
def statistics? (t : Transport) : Option CacheStatistics := t.client.cache.map (·.statistics)

end Transport

end HttpCourier
