import HttpCourier.Header.Basic

/-!
# Redaction

Secrets are kept out of logs. `Headers.redacted` hides the values of sensitive fields, and
`redactUrl` hides the name and password of every `http` or `https` address in a text.
-/

namespace HttpCourier

open Text

/-- The names, in small letters, of the fields whose values are never shown. -/
def sensitiveNames : List String :=
  ["authorization", "cookie", "x-api-key", "x-auth-token", "proxy-authorization", "set-cookie"]

/-- Whether a field's value is never shown. -/
def isSensitive (name : String) : Bool := sensitiveNames.contains (lower name)

/-- What is shown in the place of a secret. -/
def redactedText : String := "[REDACTED]"

/-- The value of a field as it is shown. -/
def shownValue (name value : String) : String := if isSensitive name then redactedText else value

/-- One entry per spelling of a name; the values of repeated fields are joined with commas. -/
def Headers.redacted (headers : Headers) : OrderedMap String String :=
  let add (acc : OrderedMap String (List String)) (field : String × String) :=
    acc.set field.1 ((acc.get? field.1).getD [] ++ [shownValue field.1 field.2])
  (headers.foldl add []).map fun (name, values) => (name, ", ".intercalate values)

namespace Redaction

/-- The text after `http://` or `https://` at the front, with the length of that front. -/
def afterScheme? (s : List Char) : Option (List Char × List Char) :=
  let front := "http://".toList
  let secure := "https://".toList
  if secure.isPrefixOf s then some (secure, s.drop secure.length)
  else if front.isPrefixOf s then some (front, s.drop front.length)
  else none

/-- The text after `name:password@` at the front: the name is free of `:`, `/` and `@`, the
password of `@`, and neither is empty. -/
def afterCredentials? (s : List Char) : Option (List Char) :=
  let inName (c : Char) := c != ':' && c != '/' && c != '@'
  match s.takeWhile inName, s.dropWhile inName with
  | _ :: _, ':' :: rest =>
    match rest.takeWhile (· != '@'), rest.dropWhile (· != '@') with
    | _ :: _, '@' :: after => some after
    | _, _ => none
  | _, _ => none

/-- The credentials at the front of a text: the scheme before them and the text after them. -/
def credentials? (s : List Char) : Option (List Char × List Char) := do
  let (scheme, rest) ← afterScheme? s
  let after ← afterCredentials? rest
  return (scheme, after)

/-- Credentials have characters, so reading goes on with fewer. -/
theorem length_of_afterCredentials? {s after : List Char} (h : afterCredentials? s = some after) :
    after.length < s.length := by
  unfold afterCredentials? at h
  simp only at h
  split at h
  · rename_i n name rest hn hd
    split at h
    · rename_i p pass after' hp ha
      obtain rfl : after' = after := by simpa using h
      have h₁ := (List.dropWhile_suffix (l := s)
        (p := fun c => c != ':' && c != '/' && c != '@')).length_le
      have h₂ := (List.dropWhile_suffix (l := rest) (p := (· != '@'))).length_le
      rw [hd] at h₁
      rw [ha] at h₂
      simp at h₁ h₂
      omega
    · simp at h
  · simp at h

/-- What follows credentials is shorter than the text they stand in. -/
theorem length_of_credentials? {s scheme after : List Char}
    (h : credentials? s = some (scheme, after)) : after.length < s.length := by
  unfold credentials? at h
  cases hs : afterScheme? s with
  | none => simp [hs] at h
  | some p =>
    obtain ⟨front, rest⟩ := p
    simp only [hs, Option.bind_eq_bind, Option.bind_some, Option.bind_eq_some_iff] at h
    obtain ⟨a, ha, he⟩ := h
    have := length_of_afterCredentials? ha
    obtain ⟨rfl, rfl⟩ : front = scheme ∧ a = after := by simpa using he
    have : rest.length ≤ s.length := by
      unfold afterScheme? at hs
      simp only at hs
      split at hs
      · simp only [Option.some.injEq, Prod.mk.injEq] at hs
        simp [← hs.2]
      · split at hs
        · simp only [Option.some.injEq, Prod.mk.injEq] at hs
          simp [← hs.2]
        · simp at hs
    omega

/-- Hides every name and password that follows a scheme. -/
def redactChars (s : List Char) : List Char :=
  match s with
  | [] => []
  | c :: rest =>
    match _h : credentials? (c :: rest) with
    | some (scheme, after) =>
      scheme ++ (redactedText ++ ":" ++ redactedText ++ "@").toList ++ redactChars after
    | none => c :: redactChars rest
termination_by s.length
decreasing_by
  · have := length_of_credentials? _h
    simpa using this
  · simp

end Redaction

/-- Hides the names and passwords of the addresses in a text. -/
def redactUrl (url : String) : String := String.ofList (Redaction.redactChars url.toList)

end HttpCourier
