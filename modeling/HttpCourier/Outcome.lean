/-!
# Outcomes and relationships

The status of an answer is classified by its hundreds. An outcome decides the relationship that an
item is transferred to.
-/

namespace HttpCourier

/-- The destinations of work items. -/
inductive Relationship where
  | original
  | response
  | retry
  | noRetry
  | failure
  deriving DecidableEq, Repr

namespace Relationship

/-- The name of a relationship. -/
def name : Relationship → String
  | original => "Original"
  | response => "Response"
  | retry => "Retry"
  | noRetry => "NoRetry"
  | failure => "Failure"

/-- All relationships. -/
def all : List Relationship := [original, response, retry, noRetry, failure]

/-- The relationship of a name. -/
def ofName? (s : String) : Option Relationship := all.find? fun r => r.name == s

end Relationship

/-- How an exchange ended. -/
inductive Outcome where
  | success
  | retry
  | noRetry
  | failure
  deriving DecidableEq, Repr

namespace Outcome

/-- The name of an outcome. -/
def name : Outcome → String
  | success => "SUCCESS"
  | retry => "RETRY"
  | noRetry => "NO_RETRY"
  | failure => "FAILURE"

/-- The outcome of a status: 2xx succeeded, 5xx may succeed later, and all else will not. -/
def ofStatus (status : Int) : Outcome :=
  let hundreds := status.fdiv 100
  if hundreds = 2 then success else if hundreds = 5 then retry else noRetry

/-- Whether a status is in the class of success. -/
def isSuccessStatus (status : Int) : Bool := status.fdiv 100 == 2

end Outcome

end HttpCourier
