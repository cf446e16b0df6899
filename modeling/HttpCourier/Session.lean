import HttpCourier.Fault
import HttpCourier.Item.Basic
import HttpCourier.Outcome
import HttpCourier.Provenance

/-!
# Sessions

A session holds the items of one cycle of work. An item that was taken or created is live until it
is transferred or removed; only a live item can be changed, transferred or removed, and each
operation replaces the version that the session keeps. `Session.hold` is the check, and the
functions below it are the operations.
-/

namespace HttpCourier

/-- The items of one cycle of work. -/
structure Session where
  incoming : List WorkItem := []
  live : OrderedMap String WorkItem := []
  transfers : List (Relationship × WorkItem) := []
  removed : List WorkItem := []
  events : List Provenance := []
  /-- Whether the session refuses to remove items. -/
  refusesRemoval : Bool := false
  /-- Every version that was kept, in order. -/
  versions : List WorkItem := []

namespace Session

/-- Keeps a version of an item. -/
def track (s : Session) (item : WorkItem) : Session :=
  { s with live := s.live.set item.id item, versions := s.versions ++ [item] }

/-- The fault of an item that is not held. -/
def hold (s : Session) (item : WorkItem) : Except Fault Unit :=
  if s.live.has item.id then .ok () else .error (.notHeld item.id)

/-- Takes the next item of the queue. -/
def take? (s : Session) : Option WorkItem × Session :=
  match s.incoming with
  | [] => (none, s)
  | item :: rest => (some item, { s with incoming := rest }.track item)

/-- Creates an item. -/
def create (s : Session) (ids : Ids) : WorkItem × Session × Ids :=
  let (item, ids) := WorkItem.create ids
  (item, s.track item, ids)

/-- Creates an item that inherits the attributes of another. -/
def createChild (s : Session) (ids : Ids) (parent : WorkItem) :
    Except Fault (WorkItem × Session × Ids) := do
  s.hold parent
  let (item, ids) := parent.child ids
  return (item, s.track item, ids)

/-- Gives an item another version. -/
def update (s : Session) (item next : WorkItem) : Except Fault (WorkItem × Session) := do
  s.hold item
  return (next, s.track next)

/-- Adds attributes to an item. -/
def putAttributes (s : Session) (item : WorkItem) (updates : List (String × String)) :
    Except Fault (WorkItem × Session) := s.update item (item.withAttributes updates)

/-- Gives an item a payload. -/
def importContent (s : Session) (item : WorkItem) (content : Bytes) :
    Except Fault (WorkItem × Session) := s.update item (item.withContent content)

/-- Penalizes an item. -/
def penalize (s : Session) (item : WorkItem) : Except Fault (WorkItem × Session) :=
  s.update item item.withPenalty

/-- Lets go of an item. -/
def release (s : Session) (item : WorkItem) : Session := { s with live := s.live.erase item.id }

/-- Hands an item to a relationship. -/
def transfer (s : Session) (item : WorkItem) (r : Relationship) : Except Fault Session := do
  s.hold item
  return { s.release item with transfers := s.transfers ++ [(r, item)] }

/-- Discards an item. -/
def remove (s : Session) (item : WorkItem) : Except Fault Session := do
  if s.refusesRemoval then throw .removalRefused
  s.hold item
  return { s.release item with removed := s.removed ++ [item] }

/-- Records what happened to an item. -/
def report (s : Session) (event : Provenance) : Session := { s with events := s.events ++ [event] }

/-- The items that were handed to a relationship, in order. -/
def transferred (s : Session) (r : Relationship) : List WorkItem :=
  (s.transfers.filter fun t => t.1 == r).map Prod.snd

/-- The recorded events of one kind. -/
def eventsOf (s : Session) (kind : Provenance.Kind) : List Provenance :=
  s.events.filter fun e => e.kind == kind

/-- The items that were neither transferred nor removed. -/
def unaccounted (s : Session) : List WorkItem := s.live.map Prod.snd

end Session

end HttpCourier
