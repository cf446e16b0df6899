import HttpCourier.Bytes.Basic
import HttpCourier.Item.Expression

/-!
# Work items

A work item is one unit of data: an identifier, attributes, a payload, and whether it is penalized.
An operation on an item gives a new version with the same identifier. `Ids` is the supply that new
items and transactions draw identifiers from.
-/

namespace HttpCourier

/-- The supply of identifiers: how many were drawn. -/
structure Ids where
  drawn : Nat := 0
  deriving DecidableEq, Repr

namespace Ids

/-- Decimal digits of a number, with zeros in front up to a width. -/
def paddedDecimal (width n : Nat) : String :=
  let digits := (toString n).toList
  String.ofList (List.replicate (width - digits.length) '0' ++ digits)

/-- The text of the `n`th identifier. -/
def text (n : Nat) : String := "00000000-0000-4000-8000-" ++ paddedDecimal 12 n

/-- Draws the next identifier. -/
def draw (ids : Ids) : String × Ids := (text (ids.drawn + 1), { drawn := ids.drawn + 1 })

end Ids

/-- One version of a work item. -/
structure WorkItem where
  id : String
  attributes : Attributes := []
  content : Bytes := []
  penalized : Bool := false
  deriving DecidableEq, Repr

namespace WorkItem

/-- The attribute that holds an item's identifier. -/
def uuidKey : String := "uuid"

/-- A new item, whose `uuid` attribute is its identifier. -/
def create (ids : Ids) (attributes : Attributes := []) (content : Bytes := []) : WorkItem × Ids :=
  let (id, ids) := ids.draw
  ({ id, attributes := attributes.set uuidKey id, content }, ids)

/-- A new item that inherits the attributes of another, its identifier apart. -/
def child (item : WorkItem) (ids : Ids) : WorkItem × Ids := create ids (item.attributes.erase uuidKey)

/-- The payload's length in bytes. -/
def size (item : WorkItem) : Nat := item.content.length

/-- The version with attributes added or overwritten. -/
def withAttributes (item : WorkItem) (updates : List (String × String)) : WorkItem :=
  { item with attributes := item.attributes.setAll updates }

/-- The version with another payload. -/
def withContent (item : WorkItem) (content : Bytes) : WorkItem := { item with content }

/-- The penalized version. -/
def withPenalty (item : WorkItem) : WorkItem := { item with penalized := true }

@[simp] theorem withAttributes_id (item : WorkItem) (updates : List (String × String)) :
    (item.withAttributes updates).id = item.id := rfl

@[simp] theorem withContent_id (item : WorkItem) (content : Bytes) :
    (item.withContent content).id = item.id := rfl

@[simp] theorem withPenalty_id (item : WorkItem) : item.withPenalty.id = item.id := rfl

/-- A new item's `uuid` attribute is its identifier. -/
theorem create_uuid (ids : Ids) (attributes : Attributes) (content : Bytes) :
    (create ids attributes content).1.attributes.get? uuidKey
      = some (create ids attributes content).1.id := by
  simp [create]

end WorkItem

end HttpCourier
