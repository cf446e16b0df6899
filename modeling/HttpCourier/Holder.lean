import HttpCourier.Log.Record

/-!
# Leases

A `Holder` keeps the handle in use and those that were replaced. Who works with a handle takes a
lease on it (`lease`) and gives it back (`release`). A handle that is replaced (`rebuild`) or
dropped (`clear`) is closed at once when nobody has a lease on it, and otherwise when the last lease
ends. Handles are known by their number, in the order in which they were built.
-/

namespace HttpCourier

/-- Handles that can be closed. -/
class Closable (α : Type) where
  close : α → α

/-- A handle that was built. -/
structure Holder.Slot (α : Type) where
  handle : α
  /-- How many leases are open. -/
  leases : Nat := 0
  /-- Whether the handle waits for its last lease to end. -/
  retired : Bool := false
  /-- How often the handle was closed. -/
  closes : Nat := 0

/-- All handles that were built, and the number of the one in use. -/
structure Holder (α : Type) where
  slots : List (Holder.Slot α) := []
  current : Option Nat := none

namespace Holder

variable {α : Type}

/-- The slot with its handle closed. -/
def Slot.close [Closable α] (s : Slot α) : Slot α :=
  { s with handle := Closable.close s.handle, retired := false, closes := s.closes + 1 }

/-- The slot of a number. -/
def slot? (h : Holder α) (number : Nat) : Option (Slot α) := h.slots[number]?

/-- Changes the slot of a number. -/
def modify (h : Holder α) (number : Nat) (f : Slot α → Slot α) : Holder α :=
  { h with slots := h.slots.modify number f }

/-- The handle in use. -/
def handle? (h : Holder α) : Option α := (h.current.bind h.slot?).map (·.handle)

/-- The record of a handle that cannot be closed yet. -/
def deferral (leases : Nat) : Log.Record :=
  .of "transport" .debug "transport_close_deferred" [("leases", .ofNat leases)]

/-- Lets go of a handle that is no longer in use. -/
def retire [Closable α] (h : Holder α) (number : Nat) : Holder α × List Log.Record :=
  match h.slot? number with
  | none => (h, [])
  | some s =>
    if s.leases = 0 then (h.modify number Slot.close, [])
    else (h.modify number fun s => { s with retired := true }, [deferral s.leases])

/-- Puts another handle in use, or none. -/
def swap [Closable α] (h : Holder α) (next : Option Nat) : Holder α × List Log.Record :=
  match h.current with
  | none => ({ h with current := next }, [])
  | some previous => ({ h with current := next } : Holder α).retire previous

/-- Puts a handle in use that was just built. -/
def install [Closable α] (h : Holder α) (handle : α) : Holder α × List Log.Record :=
  ({ h with slots := h.slots ++ [{ handle }] } : Holder α).swap (some h.slots.length)

/-- Puts the result of a build in use; a failed build changes nothing. -/
def rebuild [Closable α] {ε : Type} (h : Holder α) (built : Except ε α) :
    Except ε Unit × Holder α × List Log.Record :=
  match built with
  | .error e => (.error e, h, [])
  | .ok handle => (.ok (), h.install handle)

/-- Drops the handle in use. -/
def clear [Closable α] (h : Holder α) : Holder α × List Log.Record := h.swap none

/-- Opens a lease on the handle in use; its number is the receipt. -/
def lease (h : Holder α) : Option Nat × Holder α :=
  match h.current with
  | none => (none, h)
  | some n => (some n, h.modify n fun s => { s with leases := s.leases + 1 })

/-- Ends a lease. -/
def release [Closable α] (h : Holder α) (number : Nat) : Holder α :=
  h.modify number fun s =>
    let s := { s with leases := s.leases - 1 }
    if s.leases = 0 ∧ s.retired then s.close else s

/-- Replaces the handle of a number. -/
def put (h : Holder α) (number : Nat) (handle : α) : Holder α :=
  h.modify number fun s => { s with handle }

end Holder

end HttpCourier
