import HttpCourier.Config.Basic
import HttpCourier.Files
import HttpCourier.Log.Record
import HttpCourier.Tls.Key

/-!
# Material for secure connections

`Tls.load` reads the certificates to trust and the own certificate with its key, each from its own
file. Without a file of trusted certificates the usual ones are trusted. What is in a file is for a
`Tls.Library` to say.
-/

namespace HttpCourier

namespace Tls

/-- What opening a file comes to: a result, or one for each password once the password is asked
for. -/
inductive Opening (α : Type) where
  | settled (found : Option α)
  | locked (found : (password : Option Bytes) → Option α)

/-- A library that reads files with keys and certificates. -/
structure Library where
  /-- The certificates in a file to trust, each once; nothing when the file cannot be used. -/
  trusted : (file : Bytes) → Option (List Bytes)
  /-- The public key of the certificate that a file begins with. -/
  certificate : (file : Bytes) → Opening PublicKey
  /-- The public part of the first private key of a file. -/
  privateKey : (file : Bytes) → Opening PublicKey

/-- Why material cannot be used. -/
inductive Error where
  | truststore (path : LooseText)
  /-- There is material to trust, but no certificate in it. -/
  | noCertificates (path : LooseText)
  | keystore (path : LooseText)
  | longPassword (limit : Nat)
  | nulInPath
  /-- A path or the password cannot be encoded. -/
  | notUtf8 (e : Unencodable)
  deriving DecidableEq, Repr

namespace Error

/-- The name of the kind of an error. -/
def label : Error → String
  | truststore _ | noCertificates _ | keystore _ => "ConfigurationError"
  | longPassword _ | nulInPath => "ValueError"
  | notUtf8 _ => Unencodable.label

/-- The words for an error. -/
def message : Error → String
  | truststore path => "Unable to load truststore " ++ path.shown
  | noCertificates path => "Truststore " ++ path.shown ++ " contains no usable certificates"
  | keystore path => "Unable to load keystore " ++ path.shown
  | longPassword limit => "password cannot be longer than " ++ toString limit ++ " bytes"
  | nulInPath => FileError.nulInPath.message
  | notUtf8 e => e.message

end Error

/-- What a secure connection works with. -/
structure Material where
  /-- The certificates to trust, each once; without them the usual ones. -/
  trusted : Option (List Bytes) := none
  /-- The public key of the own certificate. -/
  own : Option PublicKey := none

/-- The name of the file at a path, and nothing for one that is not UTF-8: there are no such
files. -/
def fileName : LooseText → Except Error (Option String)
  | .whole s => if s.toList.contains '\x00' then .error .nulInPath else .ok (some s)
  | .torn t =>
    match t.unencodablePath? with
    | some e => .error (.notUtf8 e)
    | none => if t.points.contains (.char '\x00') then .error .nulInPath else .ok none

/-- Reads a file; what kind of file is missing is said by the caller. -/
def readFile (files : Files) (name : Option String) (missing : Error) : Except Error Bytes :=
  match name.map files.read with
  | some (.ok bytes) => .ok bytes
  | _ => .error missing

/-- The certificates to trust. -/
def trusted (library : Library) (files : Files) (path : LooseText) : Except Error (List Bytes) := do
  match library.trusted (← readFile files (← fileName path) (.truststore path)) with
  | none => throw (.truststore path)
  | some [] => throw (.noCertificates path)
  | some certificates => return certificates

/-- The longest password that can be given, in bytes. -/
def maxGiven : Nat := 0x7fffffff

/-- The longest password that can be used when it is asked for, in bytes. -/
def maxAsked : Nat := 1024

/-- The bytes of a password. -/
def secretOf (password : LooseText) : Except Error Bytes := do
  let secret := Bytes.ofString (← password.checked.mapError .notUtf8)
  if maxGiven < secret.length then throw (.longPassword maxGiven)
  return secret

/-- Opens a file with a password, if it is asked for. -/
def Opening.unlock {α : Type} (o : Opening α) (secret : Option Bytes) (error : Error) : Except Error α :=
  match o with
  | settled found => found.elim (.error error) .ok
  | locked found =>
    if secret.any fun s => decide (maxAsked < s.length) then .error (.longPassword maxAsked)
    else (found secret).elim (.error error) .ok

/-- The public key of the own certificate, whose private key must be there as well. The paths and
the password are encoded before a file is read. -/
def own (library : Library) (files : Files) (path : LooseText) (keyPath password : Option LooseText) :
    Except Error PublicKey := do
  let error := Error.keystore path
  let name ← fileName path
  let keyName ← keyPath.mapM fileName
  let secret ← password.mapM secretOf
  let certified ← (library.certificate (← readFile files name error)).unlock secret error
  let key ← (library.privateKey (← readFile files (keyName.getD name) error)).unlock secret error
  if key = certified then return certified else throw error

/-- Reads the configured material. -/
def load (library : Library) (files : Files) (config : Option Config.Tls) :
    Except Error (Material × List Log.Record) := do
  let c := config.getD {}
  let trusted ← c.truststorePath.mapM (trusted library files)
  let own ← c.keystorePath.mapM fun path => own library files path c.keystoreKeyPath c.keystorePassword
  return ({ trusted, own }, [.of "tls" .debug "ssl_context_created"
    [("has_keystore", .flag c.keystorePath.isSome), ("has_truststore", .flag c.truststorePath.isSome)]])

end Tls

end HttpCourier
