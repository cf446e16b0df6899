import HttpCourier.Client.Basic
import HttpCourier.Outcome
import HttpCourier.Stream.Drain

/-!
# Receiving answers

`Link.receive` carries out the exchange that a draft asks for, up to the body of the answer;
`Link.collect` then delivers the body to those who want it, and `Link.finish` closes it. Failures of
the exchange are classified.
-/

namespace HttpCourier

/-- An answer whose body is open. -/
structure Received where
  response : Response
  body : BodyStream
  /-- How many milliseconds passed before the answer. -/
  elapsed : Binary64

namespace Received

/-- The header fields as texts. -/
def headers (r : Received) : Headers := r.response.fields.texts

/-- The type of the body. -/
def contentType? (r : Received) : Option String := r.response.fields.text? "content-type"

/-- Whether the status is one of success. -/
def isSuccess (r : Received) : Bool := Outcome.isSuccessStatus r.response.status

end Received

/-- Nanoseconds as milliseconds. -/
def milliseconds (time : Nat) : Binary64 := .ofRatio false time 1000000

namespace Link

/-- Closes the body of an answer, and records what became of it. -/
def finish (response : Response) (body : BodyStream) : Step Link Unit :=
  settle response body.close.wire

/-- Carries out an exchange, up to the body of the answer. -/
def receive (draft : Draft) (chunkSize : Nat) : Step Link Received := do
  let l ← get
  let request ← Step.ofExcept (draft.toRequest l.cookies chunkSize)
  let start := l.network.clock
  match ← (send request).attempt with
  | .error fault => throw fault.classified
  | .ok response =>
    let body := BodyStream.ofWire response.wire chunkSize
    if response.status = 0 then
      finish response body
      throw (.report .noStatus noStatusMessage)
    let l ← get
    return { response, body, elapsed := milliseconds (l.network.clock - start) }

/-- Delivers the body of an answer: the first bytes, if they are wanted, and all bytes. -/
def collect (received : Received) (chunkSize : Nat) (demand : Demand) :
    Step Link (Option Bytes × Bytes) := do
  let drained := drain chunkSize demand received.body
  finish received.response drained.source
  let captured ← Step.ofExcept drained.captured
  return (captured, drained.content)

end Link

end HttpCourier
