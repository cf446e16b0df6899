import HttpCourier.Number.Binary64
import HttpCourier.Outcome
import HttpCourier.OrderedMap

/-!
# Metrics

Counts of exchanges by status, of transfers by relationship, of failures by kind, of answers from
the cache, and the bytes and milliseconds that exchanges took.
-/

namespace HttpCourier

/-- What was counted so far. -/
structure Metrics where
  requests : OrderedMap Int Nat := []
  cacheHits : Nat := 0
  failures : OrderedMap String Nat := []
  bytes : Nat := 0
  duration : Binary64 := Binary64.ofNat 0
  requestCount : Nat := 0
  transfers : OrderedMap Relationship Nat := []

namespace Metrics

/-- Counts a completed exchange with the bytes it received. -/
def recordRequest (m : Metrics) (status : Int) (received : Nat) : Metrics :=
  { m with
    requests := m.requests.count status, bytes := m.bytes + received,
    requestCount := m.requestCount + 1 }

/-- Counts an answer that came from the cache. -/
def recordCacheHit (m : Metrics) : Metrics := { m with cacheHits := m.cacheHits + 1 }

/-- Counts a failure by the name of its kind. -/
def recordFailure (m : Metrics) (label : String) : Metrics :=
  { m with failures := m.failures.count label }

/-- Counts a transfer. -/
def recordTransfer (m : Metrics) (r : Relationship) : Metrics :=
  { m with transfers := m.transfers.count r }

/-- Adds the milliseconds of an exchange. -/
def recordDuration (m : Metrics) (milliseconds : Binary64) : Metrics :=
  { m with duration := m.duration.add milliseconds }

/-- The mean duration of an exchange; zero before the first. -/
def averageDuration (m : Metrics) : Binary64 :=
  if m.requestCount = 0 then Binary64.ofNat 0 else m.duration.divNat m.requestCount

end Metrics

end HttpCourier
