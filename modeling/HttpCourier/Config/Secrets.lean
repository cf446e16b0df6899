import HttpCourier.Config.Data
import HttpCourier.Config.Dotenv
import HttpCourier.Bytes.Utf8
import HttpCourier.Files
import HttpCourier.Text.Case

/-!
# Secrets

Passwords may come from the environment instead of the configuration document. `Secrets.apply` fills
them in where the document does not have its own.
-/

namespace HttpCourier

/-- The passwords of the environment. -/
structure Secrets where
  auth : Option LooseText := none
  proxy : Option LooseText := none
  keystore : Option LooseText := none
  deriving DecidableEq, Repr

namespace Secrets

/-- A secret that is there and not empty. -/
def given (secret : Option LooseText) : Option LooseText := secret.filter fun s => !s.isEmpty

/-- The entries with a value for a key that does not occur in them. -/
def fill (name : String) (secret : LooseText) (entries : List (Data × Data)) : List (Data × Data) :=
  match Data.lookup name entries with
  | some _ => entries
  | none => entries ++ [(.text name, .ofLoose secret)]

/-- The entries with a value in front for a key that does not occur in them; one that occurs moves
to the front. -/
def fillFirst (name : String) (secret : LooseText) (entries : List (Data × Data)) : List (Data × Data) :=
  let value := (Data.lookup name entries).getD (.ofLoose secret)
  (.text name, value) :: entries.filter fun e => !Data.isKey name e.1

/-- Fills a secret into a section, if there is such a section and it has entries. -/
def fillSection (section_ name : String) (secret : Option LooseText) (entries : List (Data × Data)) :
    List (Data × Data) :=
  match given secret, Data.section? section_ entries with
  | none, _ => entries
  | _, [] => entries
  | some s, inner => Data.insert section_ (.map (fillFirst name s inner)) entries

/-- Fills the secrets into the section about transport. -/
def fillTransport (secrets : Secrets) (transport : List (Data × Data)) : List (Data × Data) :=
  let transport := match given secrets.auth with
    | none => transport
    | some s => Data.insert "auth" (.map (fill "password" s (Data.section? "auth" transport))) transport
  let transport := fillSection "proxy" "password" secrets.proxy transport
  fillSection "tls" "keystore_password" secrets.keystore transport

/-- Fills the secrets into a configuration document, which always wins over them. -/
def apply (secrets : Secrets) (document : List (Data × Data)) : List (Data × Data) :=
  match fillTransport secrets (Data.section? "transport" document) with
  | [] => document
  | transport => Data.insert "transport" (.map transport) document

/-- The value of a variable, whatever the case of its name. -/
def valueOf (known : OrderedMap String (Option String)) (name : String) : Option (Option String) :=
  (known.filter fun v => Text.lower v.1 == name).getLast?.map Prod.snd

/-- The name of the environment file. -/
def environmentFile : String := ".env"

/-- The variable for the password of the user; the names are written in small letters here. -/
def authVariable : String := "invokehttp_auth_password"

/-- The variable for the password of the proxy. -/
def proxyVariable : String := "invokehttp_proxy_password"

/-- The variable for the password of the keystore. -/
def keystoreVariable : String := "invokehttp_keystore_password"

/-- The secrets of the environment, and of the environment file for what the environment lacks. -/
def ofEnvironment (environment : OrderedMap String String) (files : Files) :
    Except Utf8.Fault Secrets := do
  let file ← Utf8.decode ((files.read environmentFile).toOption.getD [])
  let inFile := Dotenv.read environment file
  let inEnvironment := environment.map fun (k, v) => (k, some v)
  let value (name : String) : Option LooseText :=
    ((valueOf inEnvironment name).getD ((valueOf inFile name).getD none)).map .whole
  return {
    auth := value authVariable, proxy := value proxyVariable,
    keystore := value keystoreVariable }

end Secrets

end HttpCourier
