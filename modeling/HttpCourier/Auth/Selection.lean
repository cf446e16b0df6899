import HttpCourier.Bytes.Base64
import HttpCourier.Auth.Digest
import HttpCourier.Auth.Ntlm
import HttpCourier.Config.Basic
import HttpCourier.Text.Blank

/-!
# Choosing how to authenticate

Basic credentials are sent with every request (`Auth.basicField`); Digest and NTLM answer a
challenge. `Authenticator.ofConfig` chooses: NTLM before Digest before Basic before nothing.
-/

namespace HttpCourier

open Text

namespace Config.Auth

/-- The value of the header field with Basic credentials, for a configured user unless Digest is
asked for. There is none when the credentials cannot be encoded. -/
def basicField (auth : Config.Auth) : Except Unencodable (Option String) :=
  let username := auth.username.trim
  if username.isEmpty || auth.useDigest then .ok none
  else do
    let credentials ← (username ++ (":" : LooseText) ++ auth.password.trim).checked
    return some ("Basic " ++ String.ofList (Base64.encode (Bytes.ofString credentials)))

end Config.Auth

/-- How requests are authenticated. -/
inductive Authenticator where
  | none
  /-- The header field goes out with every request. -/
  | basic (field : String)
  | digest (who : Digest.Credentials)
  | ntlm (who : Ntlm.Account)
  deriving DecidableEq

namespace Authenticator

/-- The choice for configured credentials; Digest and Basic need ones that can be encoded. -/
def ofConfig (auth : Config.Auth) : Except Unencodable Authenticator :=
  let username := auth.username.trim
  let password := auth.password.trim
  let domain := auth.ntlmDomain.trim
  if !username.isEmpty && !domain.isEmpty && auth.useNtlm then .ok (.ntlm { username, password, domain })
  else if !username.isEmpty && auth.useDigest then do
    return .digest { username := ← username.checked, password := ← password.checked }
  else do
    return (← auth.basicField).elim .none .basic

/-- The name of a choice. -/
def name : Authenticator → String
  | none => "NoAuthenticator"
  | basic _ => "BasicAuthenticator"
  | digest _ => "DigestAuthenticator"
  | ntlm _ => "NtlmAuthenticator"

/-- The name of what answers challenges, if anything does. -/
def hookName? : Authenticator → Option String
  | none | basic _ => Option.none
  | digest _ => some "CachingDigestAuth"
  | ntlm _ => some "NtlmAuth"

end Authenticator

end HttpCourier
