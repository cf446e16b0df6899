import HttpCourier.Auth.Selection
import HttpCourier.Proofs.Encodings
import HttpCourier.Proofs.Listing
import HttpCourier.Proofs.Verdicts

/-!
# Credentials that are read back

`Config.Auth.credentials?` is the other side of `Config.Auth.basicField`: what a server reads in the
header field with Basic credentials. It finds the user's name in front of the first colon, so it
depends on the validation of the configuration, which keeps colons out of names
(`nameChars_of_readAuth`), that an accepted pair of credentials is read back as it was sent.
Validation does not keep out lone surrogates, and with one in either text there is no field
(`basicField_reads_back_iff`).
-/

namespace HttpCourier

open Text

/-- Trimming adds no characters. -/
theorem Text.mem_of_mem_trim {s : String} {c : Char} (h : c ∈ (trim s).toList) : c ∈ s.toList := by
  rw [trim, String.toList_ofList, trimChars, trimRight, List.mem_reverse] at h
  have hleft := List.mem_reverse.1 ((List.dropWhile_suffix _).subset h)
  exact (List.dropWhile_suffix _).subset hleft

namespace Config

open Verdict

variable {d d' : Data} {auth auth' : Config.Auth} {username password : String}

/-- The name of an accepted user has characters that a name may have. -/
theorem nameChars_of_readAuth (h : readAuth d = .accepted auth)
    (hw : auth.username = .whole username) : ∀ c ∈ username.toList, isNameChar c = true := by
  obtain ⟨entries, h5⟩ := accepted_of_readSection h
  obtain ⟨_, useDigest, h4, -, rfl⟩ := accepted_of_seq h5
  obtain ⟨_, useNtlm, h3, -, rfl⟩ := accepted_of_seq h4
  obtain ⟨_, ntlmDomain, h2, -, rfl⟩ := accepted_of_seq h3
  obtain ⟨_, password, h1, -, rfl⟩ := accepted_of_seq h2
  obtain ⟨name, hname, rfl⟩ := accepted_of_map h1
  obtain rfl : name = .whole username := hw
  rcases accepted_of_field hname with hempty | ⟨value, hvalue⟩
  · cases hempty
    nofun
  · obtain ⟨s, -, hs⟩ := accepted_of_andThen hvalue
    split at hs
    case isTrue hall =>
      obtain rfl := accepted.inj hs
      intro c hc
      exact List.all_eq_true.1 hall _ (List.mem_map_of_mem hc)
    case isFalse => cases hs

namespace Auth

/-- The credentials that a server reads in the token of a header field: the text that the token
encodes is the user's name up to the first colon, and the password after it. -/
def credentials? (token : List Char) : Option (String × String) := do
  let bytes ← (Base64.decode token).toOption
  let text ← (Utf8.decode bytes).toOption
  match text.dropWhile (· != ':') with
  | [] => none
  | _ :: password => some (String.ofList (text.takeWhile (· != ':')), String.ofList password)

/-- The token of credentials. -/
def token (username password : String) : List Char :=
  Base64.encode (Bytes.ofString (username ++ ":" ++ password))

/-- Credentials are read back when the name has no colon; the password may have any. -/
theorem credentials?_token (h : ':' ∉ username.toList) :
    credentials? (token username password) = some (username, password) := by
  have htext : (username ++ ":" ++ password).toList = username.toList ++ ':' :: password.toList := by
    simp
  have hname : ∀ c ∈ username.toList, (c != ':') = true := fun c hc => by
    simpa using fun he : c = ':' => h (he ▸ hc)
  obtain ⟨hfront, hrest⟩ :=
    takeWhile_dropWhile_of (t := password.toList) hname (show (':' != ':') = false from rfl)
  rw [credentials?, token, Base64.decode_encode, Bytes.ofString, htext]
  simp only [Except.toOption, Option.bind_eq_bind, Option.bind_some, Utf8.decode_ofChars, hrest, hfront,
    String.ofList_toList]

/-- An accepted configuration whose credentials are to go out with every request. -/
structure Announces (d : Data) (auth : Config.Auth) : Prop where
  accepted : readAuth d = .accepted auth
  named : auth.username.trim.isEmpty = false
  unchallenged : auth.useDigest = false

/-- The header field has a token, all of which is read, that gives back the trimmed name and the
trimmed password. -/
def ReadsBack (auth : Config.Auth) : Prop :=
  ∃ token username password, auth.basicField = .ok (some ("Basic " ++ String.ofList token)) ∧
    (∀ c ∈ token, Base64.IsRead c) ∧ credentials? token = some (username, password) ∧
    auth.username.trim = .whole username ∧ auth.password.trim = .whole password

/-- The field of announced credentials is made of their trimmed texts. -/
theorem Announces.basicField_eq (h : Announces d auth) :
    auth.basicField = ((auth.username.trim ++ (":" : LooseText) ++ auth.password.trim).checked).map
      fun credentials =>
        some ("Basic " ++ String.ofList (Base64.encode (Bytes.ofString credentials))) := by
  rw [basicField, h.named, h.unchallenged]
  cases (auth.username.trim ++ (":" : LooseText) ++ auth.password.trim).checked <;> rfl

/-- Two texts of characters have a field, with their token. -/
theorem Announces.basicField_whole (h : Announces d auth) (hu : auth.username = .whole username)
    (hp : auth.password = .whole password) : auth.basicField
      = .ok (some ("Basic " ++ String.ofList (token (trim username) (trim password)))) := by
  rw [h.basicField_eq, hu, hp]
  rfl

/-- The token of accepted credentials gives them back, since the name has no colon. -/
theorem Announces.credentials?_eq (h : Announces d auth) (hu : auth.username = .whole username) :
    credentials? (token (trim username) password) = some (trim username, password) := by
  refine credentials?_token fun hcolon => ?_
  have hchar := nameChars_of_readAuth h.accepted hu _ (mem_of_mem_trim hcolon)
  simp [isNameChar] at hchar

/-- There is a field exactly when both texts are made of characters. -/
theorem Announces.basicField_isOk_iff (h : Announces d auth) :
    (∃ field, auth.basicField = .ok field) ↔
      auth.username.isWhole = true ∧ auth.password.isWhole = true := by
  have hwhole : (auth.username.trim ++ (":" : LooseText) ++ auth.password.trim).isWhole = true ↔
      auth.username.isWhole = true ∧ auth.password.isWhole = true := by
    simp
  rw [h.basicField_eq, ← hwhole, ← LooseText.checked_isOk_iff]
  cases (auth.username.trim ++ (":" : LooseText) ++ auth.password.trim).checked <;> simp [Except.map]

/-- Accepted credentials that are to go out with every request are read back from their header
field, as they were trimmed, exactly when both texts are made of characters; with a lone surrogate
in either there is no field but an error. Two such configurations have the same field only when they
agree in both texts. -/
theorem basicField_reads_back_iff (h : Announces d auth) :
    (ReadsBack auth ↔ auth.username.isWhole = true ∧ auth.password.isWhole = true) ∧
    (¬ (auth.username.isWhole = true ∧ auth.password.isWhole = true) →
      ∃ e, auth.basicField = .error e) ∧
    ∀ d' auth' field, Announces d' auth' → auth.basicField = .ok field → auth'.basicField = .ok field →
      auth'.username.trim = auth.username.trim ∧ auth'.password.trim = auth.password.trim := by
  refine ⟨⟨?_, ?_⟩, fun htorn => ?_, ?_⟩
  · rintro ⟨_, _, _, hfield, -⟩
    exact h.basicField_isOk_iff.1 ⟨_, hfield⟩
  · rintro ⟨hu, hp⟩
    obtain ⟨username, hu⟩ := LooseText.isWhole_iff.1 hu
    obtain ⟨password, hp⟩ := LooseText.isWhole_iff.1 hp
    exact ⟨_, trim username, trim password, h.basicField_whole hu hp,
      fun c hc => Base64.read_of_mem_encode hc, h.credentials?_eq hu, by rw [hu]; rfl, by rw [hp]; rfl⟩
  · cases hb : auth.basicField with
    | ok field => exact (htorn (h.basicField_isOk_iff.1 ⟨field, hb⟩)).elim
    | error e => exact ⟨e, rfl⟩
  · intro d' auth' field h' hfield hfield'
    obtain ⟨hu, hp⟩ := h.basicField_isOk_iff.1 ⟨_, hfield⟩
    obtain ⟨hu', hp'⟩ := h'.basicField_isOk_iff.1 ⟨_, hfield'⟩
    obtain ⟨username, hu⟩ := LooseText.isWhole_iff.1 hu
    obtain ⟨password, hp⟩ := LooseText.isWhole_iff.1 hp
    obtain ⟨username', hu'⟩ := LooseText.isWhole_iff.1 hu'
    obtain ⟨password', hp'⟩ := LooseText.isWhole_iff.1 hp'
    have hsame := hfield'.trans hfield.symm
    rw [h.basicField_whole hu hp, h'.basicField_whole hu' hp'] at hsame
    have htokens : token (trim username') (trim password') = token (trim username) (trim password) :=
      String.ofList_injective (String.append_right_inj _ |>.1 (Option.some.inj (Except.ok.inj hsame)))
    have hread : credentials? (token (trim username') (trim password')) = _ := h'.credentials?_eq hu'
    rw [htokens, h.credentials?_eq hu] at hread
    have hpair := Option.some.inj hread
    rw [hu, hp, hu', hp']
    exact ⟨congrArg LooseText.whole (congrArg Prod.fst hpair).symm,
      congrArg LooseText.whole (congrArg Prod.snd hpair).symm⟩

/-- A login with blanks around it, letters of two bytes and a password with colons. -/
def paddedLogin : Data :=
  .map [(.text "username", .text " Zo\u00eb"), (.text "password", .text "a:b:\u20ac ")]

/-- A login whose Base64 text ends in padding is read back. -/
theorem basicField_reads_back_iff_paddedLogin :
    let auth : Config.Auth :=
      { username := .whole " Zo\u00eb", password := .whole "a:b:\u20ac " }
    Announces paddedLogin auth ∧ ReadsBack auth := by
  intro auth
  have h : Announces paddedLogin auth := ⟨by with_unfolding_all rfl, by decide +kernel, rfl⟩
  exact ⟨h, (basicField_reads_back_iff h).1.2 ⟨rfl, rfl⟩⟩

/-- A text of one surrogate. -/
def loneSurrogate : TornText := ⟨[.surrogate 0], rfl⟩

/-- A login whose password is a lone surrogate. -/
def tornLogin : Data :=
  .map [(.text "username", .text "user"), (.text "password", .torn loneSurrogate)]

/-- Validation accepts a password that is a lone surrogate, and then there is no field. -/
theorem no_field_for_tornLogin :
    let auth : Config.Auth := { username := .whole "user", password := .torn loneSurrogate }
    Announces tornLogin auth ∧ ¬ ReadsBack auth ∧
      auth.basicField = .error { first := 5, last := 5, point := .surrogate 0 } := by
  intro auth
  have hfield : auth.basicField = .error { first := 5, last := 5, point := .surrogate 0 } := by
    decide +kernel
  refine ⟨⟨by with_unfolding_all rfl, by decide +kernel, rfl⟩, ?_, hfield⟩
  rintro ⟨_, _, _, hok, -⟩
  cases hfield.symm.trans hok

end Auth

end Config

end HttpCourier
