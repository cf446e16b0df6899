import HttpCourier.Number.Binary64

/-!
# Log records

A record is one event at a level, with named values. The parts of the library return the records
they make; what is done with a record is decided by the caller (`HttpCourier.Log.Render`).
-/

namespace HttpCourier.Log

/-- How important a record is. -/
inductive Level where
  | debug
  | info
  | warning
  | error
  | critical
  deriving DecidableEq, Repr

namespace Level

/-- The name of a level. -/
def name : Level → String
  | .debug => "debug"
  | .info => "info"
  | .warning => "warning"
  | .error => "error"
  | .critical => "critical"

/-- The level of a name. -/
def ofName? (s : String) : Option Level :=
  [debug, info, warning, error, critical].find? fun l => l.name == s

/-- The weight of a level: a record is written when it weighs no less than the threshold. -/
def weight : Level → Nat
  | .debug => 10
  | .info => 20
  | .warning => 30
  | .error => 40
  | .critical => 50

end Level

/-- A value in a record. -/
inductive Value where
  | absent
  | flag (b : Bool)
  | number (n : Int)
  | real (x : Binary64)
  | text (s : String)
  | fields (pairs : List (String × String))
  | list (values : List Value)
  | object (members : List (String × Value))

/-- One event. -/
structure Record where
  level : Level
  event : String
  fields : List (String × Value) := []

/-- A record of one part of the library, which is named in the field `component`. -/
def Record.of (component : String) (level : Level) (event : String)
    (fields : List (String × Value) := []) : Record :=
  { level, event, fields := ("component", .text component) :: fields }

/-- A text or nothing. -/
def Value.ofText? (s : Option String) : Value := s.elim .absent .text

/-- A natural number. -/
def Value.ofNat (n : Nat) : Value := .number (Int.ofNat n)

end HttpCourier.Log
