import HttpCourier.Log.Json
import HttpCourier.Router

/-!
# The summary of an exchange

What is printed when an exchange is over: where the items went, whether a pause is wished for, what
happened to the items, and the metrics.
-/

namespace HttpCourier.Cli

open Log (Value)

/-- Counts by name. -/
def countsValue (counts : List (String × Nat)) : Value :=
  .object (counts.map fun c => (c.1, .ofNat c.2))

/-- The metrics of a summary. -/
def metricsValue (m : Metrics) : Value := .object [
  ("http_requests_total", countsValue (m.requests.map fun c => (toString c.1, c.2))),
  ("http_cache_hits_total", .ofNat m.cacheHits),
  ("http_failures_total", countsValue m.failures),
  ("http_bytes_total", .ofNat m.bytes),
  ("http_duration_ms_total", .real m.duration),
  ("http_request_count", .ofNat m.requestCount),
  ("http_duration_ms_avg", .real m.averageDuration),
  ("transfers_total", countsValue (m.transfers.map fun c => (c.1.name, c.2)))]

/-- A transfer of a summary. -/
def transferValue (transfer : Relationship × WorkItem) : Value := .object [
  ("relationship", .text transfer.1.name),
  ("item_id", .text transfer.2.id),
  ("penalized", .flag transfer.2.penalized),
  ("size", .ofNat transfer.2.size),
  ("attributes", .fields transfer.2.attributes)]

/-- An event of a summary. -/
def eventValue (e : Provenance) : Value := .object [
  ("event_type", .text e.kind.name),
  ("item_id", .text e.itemId),
  ("url", .ofText? e.url),
  ("elapsed_ms", e.elapsed.elim .absent .real)]

/-- The summary of what lies on a desk. -/
def summary (d : Desk) : Value := .object [
  ("transfers", .list (d.session.transfers.map transferValue)),
  ("yield_requested", .flag d.yieldRequested),
  ("provenance", .list (d.session.events.map eventValue)),
  ("metrics", metricsValue d.metrics)]

end HttpCourier.Cli
