import HttpCourier.Log.Record

/-!
# Lifecycle

A processor is stopped, running, or invalid because its last configuration could not be used.
`Lifecycle.allows` says which moves are legal; `Lifecycle.move` makes one and reports it.
-/

namespace HttpCourier

/-- The state of a processor. -/
inductive Lifecycle where
  | stopped
  | running
  | invalid
  deriving DecidableEq, Repr

namespace Lifecycle

/-- The name of a state. -/
def name : Lifecycle → String
  | stopped => "STOPPED"
  | running => "RUNNING"
  | invalid => "INVALID"

/-- The state of a name. -/
def ofName? (s : String) : Option Lifecycle := [stopped, running, invalid].find? fun l => l.name == s

/-- Whether the move from one state to another is legal. -/
def allows : Lifecycle → Lifecycle → Bool
  | stopped, running => true
  | stopped, invalid => true
  | running, stopped => true
  | invalid, _ => true
  | _, _ => false

/-- A move that was refused. -/
structure Refusal where
  current : Lifecycle
  target : Lifecycle
  deriving DecidableEq, Repr

/-- The words for a refused move. -/
def Refusal.message (r : Refusal) : String :=
  "Illegal processor state transition: " ++ r.current.name ++ " -> " ++ r.target.name

/-- The record of a move. -/
def record (level : Log.Level) (event : String) (current target : Lifecycle) : Log.Record :=
  .of "processor" level event [("from_state", .text current.name), ("to_state", .text target.name)]

/-- Moves to another state, or refuses to. -/
def move (current target : Lifecycle) : Except Refusal Lifecycle × Log.Record :=
  if current.allows target then (.ok target, record .info "state_transition" current target)
  else (.error ⟨current, target⟩, record .error "illegal_state_transition" current target)

/-- Refuses unless the state is running. -/
def requireRunning (current : Lifecycle) : Except Refusal Unit :=
  if current = running then .ok () else .error ⟨current, running⟩

/-- A move succeeds to the state it was asked for, when it is allowed. -/
theorem move_eq_ok_iff {current target next : Lifecycle} :
    (move current target).1 = .ok next ↔ current.allows target = true ∧ next = target := by
  unfold move
  by_cases h : current.allows target = true <;> simp [h, eq_comm]

end Lifecycle

end HttpCourier
