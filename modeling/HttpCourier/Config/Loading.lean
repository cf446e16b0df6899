import HttpCourier.Config.Reading
import HttpCourier.Config.Secrets
import HttpCourier.Hash.Sha256
import HttpCourier.Log.Record
import HttpCourier.Yaml.Value

/-!
# Loading a configuration

`Loader.load` reads the document at a path, fills in the secrets, and reads the configuration from
it. Files that cannot be read, documents that cannot be parsed and data that is not accepted all
come to the same `LoadError.rejected`, with a list of issues. The checksum of a loader is that of
the last document that held a mapping.
-/

namespace HttpCourier.Config

/-- Why a configuration is not loaded. -/
inductive LoadError where
  /-- The document at a path has issues. -/
  | rejected (path : String) (issues : List Issue)
  /-- A check failed in a way that is not an issue of the data. -/
  | broken (cause : Breakage)
  /-- What reads the document ends in an error that is no fault of the document's form. -/
  | unsound (e : Yaml.Error)
  /-- The path cannot be that of a file. -/
  | badPath (e : FileError)
  /-- The environment file is not UTF-8. -/
  | environment (e : Utf8.Fault)

namespace LoadError

/-- The name of the kind of an error. -/
def label : LoadError → String
  | rejected .. => "ConfigValidationError"
  | broken e => e.label
  | unsound e => e.label
  | badPath e => e.label
  | environment _ => Utf8.Fault.label

/-- The words for an error. -/
def message : LoadError → String
  | rejected path issues =>
    "Validation failed for " ++ path ++ ": " ++ toString issues.length ++ " errors"
  | broken e => e.message
  | unsound e => e.message
  | badPath e => e.message
  | environment e => e.message

/-- The issues of a document that is rejected. -/
def issues : LoadError → List Issue
  | rejected _ issues => issues
  | _ => []

/-- A document that has a single issue. -/
def ofIssue (path message kind : String) : LoadError := rejected path [{ message, kind }]

end LoadError

/-- What reads the text of a document. -/
abbrev Parser := List Char → Except Yaml.Error Data

/-- The value of a document in bytes, by the path it was read from. -/
def parseDocument (parse : Parser) (path : String) (bytes : Bytes) : Except LoadError Data :=
  match Utf8.decode bytes with
  | .error e => .error (.ofIssue path e.message Utf8.Fault.label)
  | .ok text =>
    match parse text with
    | .ok d => .ok d
    | .error e => .error (if e.isFormal then .ofIssue path e.message e.label else .unsound e)

/-- The entries of a document, which is a mapping; an empty value counts as an empty mapping. -/
def topEntries (path : String) (d : Data) : Except LoadError Entries :=
  if d.isEmpty then .ok []
  else match d with
    | .map entries => .ok entries
    | _ => .error (.ofIssue path "Top level must be a mapping" "type_error")

/-- The bytes and the entries of the document at a path. -/
def readDocument (parse : Parser) (files : Files) (path : String) :
    Except LoadError (Bytes × Entries) := do
  match files.read path with
  | .error .nulInPath => throw (.badPath .nulInPath)
  | .error e => throw (.ofIssue path e.message e.label)
  | .ok bytes => return (bytes, ← topEntries path (← parseDocument parse path bytes))

/-- Accepts the entries of a document, with secrets filled in. -/
def accept (path : String) (secrets : Secrets) (entries : Entries) : Except LoadError Config :=
  match read (.map (secrets.apply entries)) with
  | .accepted c => .ok c
  | .rejected issues => .error (.rejected path issues)
  | .broken e => .error (.broken e)

/-- What loads configurations. -/
structure Loader where
  /-- What reads the text of a document. -/
  parse : Parser := Yaml.load
  /-- The secrets to fill in; without them, those of the environment. -/
  secrets : Option Secrets := none
  /-- The digest of the last document that held a mapping. -/
  checksum : Option String := none

/-- The secrets that a loader fills in. -/
def Loader.secretsFrom (l : Loader) (environment : OrderedMap String String) (files : Files) :
    Except LoadError Secrets :=
  match l.secrets with
  | some s => .ok s
  | none => (Secrets.ofEnvironment environment files).mapError .environment

/-- The path of a document in its plain form. -/
def documentPath (path : String) : String := String.ofList (plainPath path.toList)

/-- Loads the configuration at a path. -/
def Loader.load (l : Loader) (environment : OrderedMap String String) (files : Files) (path : String) :
    Except LoadError Config × Loader :=
  let path := documentPath path
  match readDocument l.parse files path with
  | .error e => (.error e, l)
  | .ok (bytes, entries) =>
    let result := (l.secretsFrom environment files).bind fun s => accept path s entries
    (result, { l with checksum := some (Bytes.toHex (Hash.Sha256.hash bytes)) })

end HttpCourier.Config
