import HttpCourier.Auth.Selection
import HttpCourier.Config.Reading
import HttpCourier.HttpDate
import HttpCourier.Log.Record
import HttpCourier.Message.Draft

/-!
# Assembling requests

An `Assembler` makes the draft of a request from a work item: it expands the configured texts with
the attributes of the item and chooses header fields and body.
-/

namespace HttpCourier

open Text

/-- What drafts are made from. -/
structure Assembler where
  config : Config.Request
  basicField : Option String
  pattern : Option Pattern

namespace Assembler

/-- The attributes that say how an exchange went; no bookkeeping attribute is sent. -/
def statusCodeKey : String := "invokehttp.status.code"
def statusMessageKey : String := "invokehttp.status.message"
def responseBodyKey : String := "invokehttp.response.body"
def requestUrlKey : String := "invokehttp.request.url"
def transactionKey : String := "invokehttp.tx.id"
def peerKey : String := "invokehttp.remote.dn"

/-- The attributes that are never sent. -/
def reservedKeys : List String :=
  [statusCodeKey, statusMessageKey, responseBodyKey, requestUrlKey, transactionKey, peerKey,
    "invokehttp.exception.class", "invokehttp.exception.message", WorkItem.uuidKey, "filename", "path"]

/-- The methods whose requests have a body. -/
def bodyMethods : List String := ["POST", "PUT", "PATCH"]

/-- The type of a body that has no other. -/
def defaultContentType : String := "application/octet-stream"

/-- The configured pattern. -/
def patternOf (config : Config.Request) : Except Fault (Option Pattern) :=
  match config.attributesToSend with
  | none => .ok none
  | some text => ((Pattern.read text).mapError (Fault.pattern text)).map some

/-- The assembler of a configuration, unless its credentials cannot be encoded for the header. -/
def ofConfig (config : Config.Request) (auth : Config.Auth) : Except Fault Assembler := do
  let pattern ← patternOf config
  let basicField ← auth.basicField.mapError Fault.notUtf8
  return { config, basicField, pattern }

/-- The attributes of an item, if there is one. -/
def attributesOf (item : Option WorkItem) : Attributes := item.elim [] (·.attributes)

/-- The method of the request for an item. -/
def method (a : Assembler) (item : Option WorkItem) : String :=
  upper (trim (Expression.expand a.config.method (attributesOf item)))

/-- The address of the request for an item. -/
def url (a : Assembler) (item : Option WorkItem) : String :=
  trim (Expression.expand a.config.url (attributesOf item))

/-- Whether requests of a method have a body. -/
def hasBody (method : String) : Bool := bodyMethods.contains method

/-- The body of the request for an item: its payload, unless payloads are not sent. -/
def body (a : Assembler) : Option WorkItem → Draft.Body
  | none => {}
  | some item =>
    if !a.config.sendBody then {}
    else
      let type := trim (Expression.expand a.config.contentType item.attributes)
      { contentType := some (if type.isEmpty then defaultContentType else type),
        content := item.content, chunked := a.config.chunked }

/-- The configured headers for an item, and a warning for each that is excluded. -/
def dynamicHeaders (a : Assembler) (item : Option WorkItem) : Headers × List Log.Record :=
  let advice (name : String) : Option String := Config.excludedHeaders.lookup name
  let (excluded, kept) := a.config.dynamicHeaders.partition fun h => (advice h.1).isSome
  (kept.map fun (name, value) => (name, Expression.expand value (attributesOf item)),
    excluded.map fun (name, _) => .of "request" .warning "header_excluded"
      [("header", .text name),
        ("reason", .text ("HTTP request header '" ++ name ++ "' excluded. " ++ (advice name).getD ""))])

/-- The headers that come from the attributes of an item. -/
def attributeHeaders (a : Assembler) : Option WorkItem → Headers
  | none => []
  | some item => Headers.ofAttributes reservedKeys (a.pattern.map Pattern.matchesWhole) item.attributes

/-- The field with the date, unless dates are not sent. -/
def dateField (a : Assembler) (now : Int) : Except Fault Headers :=
  if a.config.dateField then
    match HttpDate.ofSeconds now with
    | .ok date => .ok [("Date", date)]
    | .error e => .error (.date e)
  else .ok []

/-- The draft of the request for an item at a moment, with the records about it. -/
def assemble (a : Assembler) (item : Option WorkItem) (now : Int) :
    Except Fault (Draft × List Log.Record) := do
  let method := a.method item
  let date ← a.dateField now
  let (dynamic, log) := a.dynamicHeaders item
  let headers := (a.basicField.map fun v => ("Authorization", v)).toList ++ date ++ dynamic
    ++ a.attributeHeaders item
  let body := if hasBody method then some (a.body item) else none
  return ({ method, url := a.url item, headers, body }, log)

end Assembler

end HttpCourier
