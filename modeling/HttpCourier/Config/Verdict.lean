import HttpCourier.Config.DataSize
import HttpCourier.Pattern.Reading

/-!
# Verdicts on configuration data

Reading configuration data either accepts it, or rejects it with a list of issues. `Verdict`
collects the issues of all parts, in order. A check that fails in a way that is not an issue of the
data, such as a size too large for arithmetic, ends the reading altogether: then the verdict is
`broken`.
-/

namespace HttpCourier.Config

/-- One thing that is wrong with configuration data. -/
structure Issue where
  /-- The keys that lead to the value. -/
  place : List String := []
  message : String
  kind : String
  deriving DecidableEq, Repr

/-- The place of an issue as one text. -/
def Issue.location (i : Issue) : String := ".".intercalate i.place

/-- A check that failed in a way that is not an issue of the data. -/
inductive Breakage where
  | size (e : DataSize.Error)
  | pattern (e : Pattern.Error) (text : String)

/-- The name of the kind of a breakage. -/
def Breakage.label : Breakage → String
  | .size e => e.label
  | .pattern e _ => e.label

/-- The words for a breakage. -/
def Breakage.message : Breakage → String
  | .size e => e.message
  | .pattern e text => e.message text

/-- What reading data comes to. -/
inductive Verdict (α : Type) where
  | accepted (value : α)
  | rejected (issues : List Issue)
  | broken (cause : Breakage)

namespace Verdict

variable {α β : Type}

/-- A verdict with a single issue. -/
def issue (kind message : String) : Verdict α := .rejected [{ message, kind }]

/-- Changes the value of accepted data. -/
def map (f : α → β) : Verdict α → Verdict β
  | accepted a => accepted (f a)
  | rejected issues => rejected issues
  | broken e => broken e

/-- Reads two parts: the issues of both count, and the first breakage ends the reading. -/
def both (f : Verdict (α → β)) (a : Verdict α) : Verdict β :=
  match f, a with
  | broken e, _ => broken e
  | _, broken e => broken e
  | accepted f, accepted a => accepted (f a)
  | accepted _, rejected issues => rejected issues
  | rejected issues, accepted _ => rejected issues
  | rejected first, rejected second => rejected (first ++ second)

instance : Applicative Verdict where
  pure := accepted
  map := map
  seq f a := both f (a ())

/-- A check that needs the value, after it was accepted. -/
def andThen (v : Verdict α) (check : α → Verdict β) : Verdict β :=
  match v with
  | accepted a => check a
  | rejected issues => rejected issues
  | broken e => broken e

/-- Says under which key the data stands. -/
def under (key : String) : Verdict α → Verdict α
  | rejected issues => rejected (issues.map fun i => { i with place := key :: i.place })
  | other => other

/-- Issues that are found beside those of the value. -/
def withIssues (v : Verdict α) (more : List Issue) : Verdict α :=
  match v, more with
  | accepted a, [] => accepted a
  | accepted _, more => rejected more
  | rejected issues, more => rejected (issues ++ more)
  | broken e, _ => broken e

/-- Issues that are found instead of the verdict, unless the reading has ended. -/
def replacedBy (v : Verdict α) (issues : List Issue) : Verdict α :=
  match v with
  | broken e => broken e
  | _ => rejected issues

end Verdict

end HttpCourier.Config
