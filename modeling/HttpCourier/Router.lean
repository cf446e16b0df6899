import HttpCourier.Metrics
import HttpCourier.Session

/-!
# Routing

A `Desk` is where a processor works on its items: the session, the supply of identifiers, the
metrics, the scheduler's wish to pause, and the log. `Desk.route` transfers the items of a completed
exchange by the class of its status, and `Desk.routeFailure` those of an exchange that ended in a
fault.
-/

namespace HttpCourier

/-- Where a processor works. -/
structure Desk where
  session : Session := {}
  ids : Ids := {}
  metrics : Metrics := {}
  yieldRequested : Bool := false
  log : List Log.Record := []

/-- What a router is told by the configuration. -/
structure Routing where
  penalizeNoRetry : Bool := false
  alwaysOutputResponse : Bool := false
  deriving DecidableEq, Repr

namespace Desk

/-- The attribute for the kind of the fault that stopped an exchange. -/
def faultKindKey : String := "invokehttp.exception.class"

/-- The attribute for the text of the fault that stopped an exchange. -/
def faultTextKey : String := "invokehttp.exception.message"

/-- Adds a record to the log. -/
def note (record : Log.Record) : Step Desk Unit :=
  modify fun d => { d with log := d.log ++ [record] }

/-- Asks the scheduler for a pause. -/
def requestYield : Step Desk Unit := modify fun d => { d with yieldRequested := true }

/-- Applies a change of the session that gives a new version of an item. -/
def revise (change : Session → Except Fault (WorkItem × Session)) : Step Desk WorkItem := do
  let d ← get
  let (item, session) ← Step.ofExcept (change d.session)
  set { d with session }
  return item

/-- Creates an item. -/
def create : Step Desk WorkItem := do
  let d ← get
  let (item, session, ids) := d.session.create d.ids
  set { d with session, ids }
  return item

/-- Creates an item that inherits the attributes of another. -/
def createChild (parent : WorkItem) : Step Desk WorkItem := do
  let d ← get
  let (item, session, ids) ← Step.ofExcept (d.session.createChild d.ids parent)
  set { d with session, ids }
  return item

/-- Adds attributes to an item. -/
def putAttributes (item : WorkItem) (updates : List (String × String)) : Step Desk WorkItem :=
  revise fun s => s.putAttributes item updates

/-- Gives an item a payload. -/
def importContent (item : WorkItem) (content : Bytes) : Step Desk WorkItem :=
  revise fun s => s.importContent item content

/-- Penalizes an item. -/
def penalize (item : WorkItem) : Step Desk WorkItem := revise fun s => s.penalize item

/-- Records what happened to an item. -/
def report (event : Provenance) : Step Desk Unit :=
  modify fun d => { d with session := d.session.report event }

/-- Hands an item to a relationship, and counts it. -/
def transfer (item : WorkItem) (r : Relationship) : Step Desk Unit := do
  let d ← get
  let session ← Step.ofExcept (d.session.transfer item r)
  set { d with session, metrics := d.metrics.recordTransfer r }

/-- Discards an item. -/
def remove (item : WorkItem) : Step Desk Unit := do
  let d ← get
  let session ← Step.ofExcept (d.session.remove item)
  set { d with session }

/-- Transfers the response of an exchange if there is one. -/
def transferResponse (response : Option WorkItem) : Step Desk Unit :=
  match response with
  | some item => transfer item .response
  | none => return ()

/-- Transfers the original item of a completed exchange. -/
def transferOriginal (routing : Routing) (outcome : Outcome) (item : WorkItem) : Step Desk Unit := do
  match outcome with
  | .success => transfer item .original
  | .retry => transfer (← penalize item) .retry
  | _ =>
    let item ← if routing.penalizeNoRetry then penalize item else pure item
    transfer item .noRetry

/-- Routes a completed exchange by its status. -/
def route (routing : Routing) (status : Int) (original response : Option WorkItem) :
    Step Desk Outcome := do
  let outcome := Outcome.ofStatus status
  if outcome ≠ .success ∧ original.isNone then
    requestYield
    note (.of "router" .debug "yield_requested" [("status_code", .number status)])
  if routing.alwaysOutputResponse then transferResponse response
  match original with
  | some item => transferOriginal routing outcome item
  | none => pure ()
  if outcome = .success ∧ !routing.alwaysOutputResponse then transferResponse response
  return outcome

/-- The fields of a record about a fault. -/
def faultFields (fault : Fault) : List (String × Log.Value) :=
  [("error_class", .text fault.label), ("error", .text fault.message)]

/-- Discards the response of an exchange that ended in a fault; that it cannot be discarded is only
noted. -/
def discardResponse (item : WorkItem) : Step Desk Unit := do
  match ← Step.attempt (remove item) with
  | .ok () => return ()
  | .error fault =>
    note (.of "router" .error "response_cleanup_failed"
      (("item_id", .text item.id) :: faultFields fault))

/-- Routes an exchange that ended in a fault. -/
def routeFailure (fault : Fault) (original response : Option WorkItem) : Step Desk Outcome := do
  modify fun d => { d with metrics := d.metrics.recordFailure fault.label }
  match original with
  | some item =>
    note (.of "router" .error "routing_to_failure"
      (("item_id", .text item.id) :: faultFields fault))
    let item ← penalize item
    let item ← putAttributes item [(faultKindKey, fault.label), (faultTextKey, fault.message)]
    transfer item .failure
  | none =>
    note (.of "router" .error "yielding_after_failure" (faultFields fault))
    requestYield
  match response with
  | some item => discardResponse item
  | none => pure ()
  return .failure

end Desk

end HttpCourier
