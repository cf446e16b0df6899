import HttpCourier.Bytes.Base64
import HttpCourier.Hash.Block
import HttpCourier.Text.Case
import HttpCourier.Text.Loose
import HttpCourier.Url.Basic

/-!
# NTLM messages

The client opens with a first message, the server answers with a token, and the client closes with a
third. A message starts with a signature and its type (`messageHead`); what follows depends on
random values and is not part of this library.
-/

namespace HttpCourier.Ntlm

open Text

/-- What makes a server's token unusable. -/
inductive Error where
  | base64 (e : Base64.DecodeError)
  | notAscii
  /-- The token is too short for a message. -/
  | short
  deriving DecidableEq

/-- The words for an unusable token. -/
def Error.message : Error → String
  | .base64 e => e.message
  | .notAscii => "string argument should contain only ASCII characters"
  | .short => "unpack requires a buffer of 4 bytes"

/-- The name of the kind of an error. -/
def Error.label : Error → String
  | .base64 _ => "Error"
  | .notAscii => "ValueError"
  | .short => "error"

/-- The signature that every message starts with. -/
def signature : Bytes := Bytes.ofString "NTLMSSP" ++ [0]

/-- The signature and the type of a message. -/
def messageHead (type : Nat) : Bytes := signature ++ Hash.littleEndianBytes 4 type

/-- The type of a message. -/
def messageType (message : Bytes) : Nat := Hash.littleEndian ((message.drop 8).take 4)

/-- The scheme to answer with: `NTLM` if it is offered, else `Negotiate` if that is. -/
def scheme? (challenges : List String) : Option String :=
  let offered := challenges.map fun c =>
    lower (trim (String.ofList (Url.cut ' ' c.toList).1))
  if offered.contains "ntlm" then some "NTLM"
  else if offered.contains "negotiate" then some "Negotiate"
  else none

/-- The token in the first challenge of a scheme, if there is one. -/
def serverToken (challenges : List String) (scheme : String) : Except Error (Option Bytes) :=
  let mark := (lower scheme ++ " ").toList
  match challenges.find? fun c => mark.isPrefixOf (lower c).toList with
  | none => .ok none
  | some c =>
    let text := trimChars (c.toList.drop mark.length)
    if text.all fun d => decide (d.toNat < 128) then
      match Base64.decode text with
      | .ok token => .ok (some token)
      | .error e => .error (.base64 e)
    else .error .notAscii

/-- A user's account in a domain; what is made of it is part of the messages' random half. -/
structure Account where
  username : LooseText
  password : LooseText
  domain : LooseText
  deriving DecidableEq

/-- The name of a user with the domain. -/
def Account.principal (a : Account) : LooseText := a.domain ++ ("\\" : LooseText) ++ a.username

/-- The value of a header field with a token. -/
def tokenField (scheme : String) (token : Bytes) : String :=
  scheme ++ " " ++ String.ofList (Base64.encode token)

/-- The length of the fixed part of a server's message. -/
def challengeLength : Nat := 32

/-- The closing message for a server's token. -/
def closing (token : Bytes) : Except Error Bytes :=
  if token.length < challengeLength then .error .short else .ok (messageHead 3)

end HttpCourier.Ntlm
