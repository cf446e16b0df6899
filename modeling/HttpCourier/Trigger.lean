import HttpCourier.Assembly
import HttpCourier.Client.Capture
import HttpCourier.Header.Redaction
import HttpCourier.Router

/-!
# One cycle of work

`Trigger.run` takes at most one item, carries out the exchange for it, and hands the items to their
relationships. Whatever stops the exchange on the way is routed like a failed exchange
(`Desk.routeFailure`), with the versions of the items that were reached.
-/

namespace HttpCourier

/-- What a processor does with each item. Scheduling sets its parts one after the other; only a
processor that runs reads them, and then all are set, so they are one value here. -/
structure Duty where
  config : Config
  assembler : Assembler

namespace Duty

/-- The duty that a configuration describes. -/
def ofConfig (config : Config) : Except Fault Duty :=
  (Assembler.ofConfig config.request config.transport.auth).map fun assembler => { config, assembler }

/-- What the router is told. -/
def routing (d : Duty) : Routing :=
  { penalizeNoRetry := d.config.penalizeNoRetry, alwaysOutputResponse := d.config.alwaysOutputResponse }

/-- Whether bodies of successful answers go into an attribute. -/
def putsBody (d : Duty) : Bool := d.config.bodyAttribute.isSome

/-- Whether the body of an answer becomes the payload of an item of its own. -/
def givesResponse (d : Duty) (success : Bool) : Bool :=
  (success && !d.putsBody) || d.config.alwaysOutputResponse

/-- Whether the body of an answer goes into an attribute of the original. -/
def givesAttribute (d : Duty) (success : Bool) : Bool := !success || d.putsBody

end Duty

/-- What a cycle works with: the desk, the link of its client, and the items it has in hand. -/
structure Bench where
  desk : Desk
  link : Link
  original : Option WorkItem := none
  response : Option WorkItem := none

namespace Bench

/-- Works on the desk. -/
def onDesk {α : Type} (step : Step Desk α) : Step Bench α := do
  let b ← get
  let (result, desk) := Step.on b.desk step
  set { b with desk }
  Step.ofExcept result

/-- Works on the link; what it notes goes to the log of the desk. -/
def onLink {α : Type} (step : Step Link α) : Step Bench α := do
  let b ← get
  let (result, link) := Step.on { b.link with log := [] } step
  set { b with link := { link with log := [] }, desk := { b.desk with log := b.desk.log ++ link.log } }
  Step.ofExcept result

/-- Runs an operation while the body of an answer is open; after a fault the body is closed. -/
def guarding {α : Type} (received : Received) (step : Step Bench α) : Step Bench α := do
  match ← step.attempt with
  | .ok a => return a
  | .error fault =>
    onLink (Link.finish received.response received.body)
    throw fault

/-- Adds attributes to the original, if there is one. -/
def putOnOriginal (updates : List (String × String)) : Step Bench Unit := do
  match (← get).original with
  | none => return ()
  | some item =>
    let item ← onDesk (Desk.putAttributes item updates)
    modify fun b => { b with original := some item }

/-- Adds attributes to the response, if there is one. -/
def putOnResponse (updates : List (String × String)) : Step Bench Unit := do
  match (← get).response with
  | none => return ()
  | some item =>
    let item ← onDesk (Desk.putAttributes item updates)
    modify fun b => { b with response := some item }

/-- The milliseconds since a moment. -/
def since (start : Nat) : Step Bench Binary64 := do
  return milliseconds ((← get).link.network.clock - start)

end Bench

namespace Trigger

/-- The attribute for the type of a payload. -/
def typeKey : String := "mime.type"

/-- An exchange as it is set up: its draft, its identifier, and when it began. -/
structure Plan where
  draft : Draft
  transaction : String
  start : Nat

namespace Plan

/-- A record of the exchange. -/
def record (p : Plan) (event : String) (fields : List (String × Log.Value)) : Log.Record :=
  .of "processor" .debug event
    (("transaction_id", .text p.transaction) :: ("url", .text (redactUrl p.draft.url)) :: fields)

/-- The attributes that say how the exchange went. -/
def statusAttributes (p : Plan) (response : Response) : List (String × String) :=
  [(Assembler.statusCodeKey, toString response.status),
    (Assembler.statusMessageKey, response.statusPhrase),
    (Assembler.requestUrlKey, p.draft.url), (Assembler.transactionKey, p.transaction)]

end Plan

/-- The header fields of an answer as attributes, with the name of the other side. -/
def headerAttributes (received : Received) : Attributes :=
  let attributes := Headers.toAttributes received.headers
  match received.response.peerName? with
  | none => attributes
  | some name => attributes.set Assembler.peerKey name

/-- Takes the item of the cycle: `none` when there is nothing to do, and otherwise the original, if
there is one. An exchange without an item is carried out when none can arrive and none is needed. -/
def intake (duty : Duty) (hasIncoming : Bool) : Step Desk (Option (Option WorkItem)) := do
  let d ← get
  let (item, session) := d.session.take?
  match item with
  | some item =>
    set { d with session }
    return some (some item)
  | none =>
    if hasIncoming || Assembler.hasBody (duty.assembler.method none) then return none
    else if duty.putsBody then return some (some (← Desk.create))
    else return some none

/-- Draws the identifier of an exchange. -/
def drawTransaction : Step Desk String := do
  let d ← get
  let (id, ids) := d.ids.draw
  set { d with ids }
  return id

/-- Notes what the cache counted before the exchange. -/
def noteCache (client : Client) : Step Desk Unit :=
  match client.cache with
  | none => return ()
  | some cache =>
    Desk.note (.of "processor" .debug "etag_cache_metrics"
      [("request_count", .ofNat cache.statistics.requests),
        ("network_count", .ofNat cache.statistics.network),
        ("hit_count", .ofNat cache.statistics.hits)])

/-- Sets up the exchange for the original at a moment. -/
def prepare (duty : Duty) (transaction : String) (now : Int) : Step Bench Plan := do
  let b ← get
  let (draft, log) ← Step.ofExcept (duty.assembler.assemble b.original now)
  log.forM fun r => Bench.onDesk (Desk.note r)
  let plan : Plan := { draft, transaction, start := b.link.network.clock }
  Bench.onDesk (Desk.note (plan.record "request_sent"
    [("method", .text draft.method), ("headers", .fields draft.headers.redacted)]))
  match draft.body, b.original with
  | some _, some item =>
    Bench.onDesk (Desk.report { kind := .send, itemId := item.id, url := some draft.url })
  | _, _ => pure ()
  return plan

/-- Creates the item for the body of an answer. -/
def createResponse (plan : Plan) (received : Received) : Step Bench Unit := do
  let b ← get
  let item ← Bench.onDesk (b.original.elim Desk.create Desk.createChild)
  modify fun b => { b with response := some item }
  Bench.putOnResponse (plan.statusAttributes received.response)
  Bench.putOnResponse (headerAttributes received)
  match received.contentType? with
  | some type => if !type.isEmpty then Bench.putOnResponse [(typeKey, type)]
  | none => pure ()

/-- Brings the items up to date with an answer whose body was not read yet, and says what is wanted
from the body. -/
def greet (duty : Duty) (plan : Plan) (received : Received) : Step Bench Demand := do
  Bench.onDesk (Desk.note (plan.record "response_received"
    [("status_code", .number received.response.status), ("headers", .fields received.headers.redacted)]))
  Bench.putOnOriginal (plan.statusAttributes received.response)
  if duty.config.addResponseHeaders then Bench.putOnOriginal (headerAttributes received)
  let b ← get
  let content := duty.givesResponse received.isSuccess
  let wanted := duty.givesAttribute received.isSuccess && b.original.isSome
  if content then createResponse plan received
  return { content, capacity := if wanted then some duty.config.maxAttributeLength else none }

/-- Gives the response its payload. -/
def fillResponse (plan : Plan) (content : Bytes) : Step Bench Unit := do
  let b ← get
  match b.response with
  | none => return ()
  | some item =>
    let item ← Bench.onDesk (Desk.importContent item content)
    modify fun b => { b with response := some item }
    let elapsed ← Bench.since plan.start
    Bench.onDesk (Desk.report {
      kind := if b.original.isSome then .fetch else .receive, itemId := item.id,
      url := some plan.draft.url, elapsed := some elapsed })

/-- The attribute for the body of an answer. -/
def bodyKey (duty : Duty) (item : WorkItem) : String :=
  let key := Text.trim (Expression.expand (duty.config.bodyAttribute.getD "") item.attributes)
  if key.isEmpty then Assembler.responseBodyKey else key

/-- What is said about an attribute that was given the body of an answer. -/
def bodyDetails (key url : String) (elapsed : Binary64) : String :=
  "The " ++ key ++ " has been added. The value of which is the body of a http call to " ++ url
    ++ ". It took " ++ toString (elapsed.round?.getD 0) ++ " millis."

/-- Gives the original the first bytes of the body as text. -/
def fillAttribute (duty : Duty) (plan : Plan) (received : Received) (captured : Bytes) :
    Step Bench Unit := do
  match (← get).original with
  | none => return ()
  | some item =>
    let key := bodyKey duty item
    let text ← Step.ofExcept
      ((Charset.read received.contentType? captured).mapError Fault.charset)
    Bench.putOnOriginal [(key, String.ofList text)]
    let elapsed ← Bench.since plan.start
    Bench.onDesk (Desk.report {
      kind := .attributesModified, itemId := item.id, url := some plan.draft.url,
      details := some (bodyDetails key plan.draft.url elapsed), elapsed := some elapsed })

/-- Counts a completed exchange. -/
def count (plan : Plan) (response : Response) (bytes : Nat) : Step Bench Unit := do
  let elapsed ← Bench.since plan.start
  Bench.onDesk (modify fun d =>
    let m := (d.metrics.recordRequest response.status bytes).recordDuration elapsed
    { d with metrics := if response.fromCache then m.recordCacheHit else m })

/-- Carries out the exchange, and hands the items to their relationships. -/
def exchange (duty : Duty) (chunkSize : Nat) (transaction : String) (now : Int) :
    Step Bench Outcome := do
  let plan ← prepare duty transaction now
  let received ← Bench.onLink (Link.receive plan.draft chunkSize)
  let demand ← Bench.guarding received (greet duty plan received)
  let (captured, content) ← Bench.onLink (Link.collect received chunkSize demand)
  if demand.content then fillResponse plan content
  match captured with
  | some bytes => fillAttribute duty plan received bytes
  | none => pure ()
  count plan received.response (if demand.content then content.length else (captured.getD []).length)
  let b ← get
  Bench.onDesk (Desk.route duty.routing received.response.status b.original b.response)

/-- One cycle of work; `none` when there was nothing to do. -/
def run (duty : Duty) (chunkSize : Nat) (hasIncoming : Bool) (now : Int) :
    Step Bench (Option Outcome) := do
  match ← Bench.onDesk (intake duty hasIncoming) with
  | none => return none
  | some original =>
    modify fun b => { b with original, response := none }
    let b ← get
    Bench.onDesk (noteCache b.link.client)
    let transaction ← Bench.onDesk drawTransaction
    match ← (exchange duty chunkSize transaction now).attempt with
    | .ok outcome => return some outcome
    | .error fault =>
      let b ← get
      return some (← Bench.onDesk (Desk.routeFailure fault b.original b.response))

end Trigger

end HttpCourier
