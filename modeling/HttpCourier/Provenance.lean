import HttpCourier.Number.Binary64

/-!
# Provenance

What happened to an item in an exchange: its payload was sent, an answer was received for it or
without it, or an attribute was given the body of an answer.
-/

namespace HttpCourier

/-- The kinds of events. -/
inductive Provenance.Kind where
  | send
  | fetch
  | receive
  | attributesModified
  deriving DecidableEq, Repr

/-- The name of a kind. -/
def Provenance.Kind.name : Provenance.Kind → String
  | .send => "SEND"
  | .fetch => "FETCH"
  | .receive => "RECEIVE"
  | .attributesModified => "ATTRIBUTES_MODIFIED"

/-- The kind of a name. -/
def Provenance.Kind.ofName? (s : String) : Option Provenance.Kind :=
  [send, fetch, receive, attributesModified].find? fun k => k.name == s

/-- One event in the life of an item. -/
structure Provenance where
  kind : Provenance.Kind
  itemId : String
  url : Option String := none
  details : Option String := none
  /-- How long the exchange took, in milliseconds. -/
  elapsed : Option Binary64 := none

end HttpCourier
