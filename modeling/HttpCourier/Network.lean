import HttpCourier.Message.Response

/-!
# The network

A `Network` is known by what it will do: for each request that reaches it the next `NetworkStep`
says how long it takes and whether it is answered. It keeps the time, and a record of every
exchange.
-/

namespace HttpCourier

/-- An answer of the network. -/
structure Reply where
  status : Int
  phrase : Option Bytes := none
  fields : Fields := []
  body : List Wire.Part := []
  peer : Peer := .unknown

/-- What the network does with one request. -/
structure NetworkStep where
  /-- How many nanoseconds pass first. -/
  delay : Nat := 0
  answer : Except Failure Reply

/-- A request that reached the network, and the wire of its answer, if there was one. -/
structure Exchange where
  request : Request
  wire : Option Wire := none

/-- The network: what it will do, the time in nanoseconds, and what happened so far. -/
structure Network where
  steps : List NetworkStep := []
  /-- When its time began, in seconds since the start of 1970. -/
  epoch : Int := 0
  clock : Nat := 0
  exchanges : List Exchange := []

namespace Network

/-- What a network does when nothing else is left. -/
def exhausted : NetworkStep :=
  { answer := .error (.plain .connect "network script exhausted") }

/-- The time in seconds since the start of 1970. -/
def now (n : Network) : Int := n.epoch + (n.clock / 1000000000 : Nat)

/-- Sends a request. -/
def send (n : Network) (request : Request) : Except Failure Response × Network :=
  let step := n.steps.headD exhausted
  let after (wire : Option Wire) : Network :=
    { n with
      steps := n.steps.tail, clock := n.clock + step.delay,
      exchanges := n.exchanges ++ [{ request, wire }] }
  match step.answer with
  | .error failure => (.error failure, after none)
  | .ok reply =>
    let wire : Wire := { parts := reply.body }
    (.ok { request, status := reply.status, phrase := reply.phrase, fields := reply.fields,
           peer := reply.peer, wire }, after (some wire))

/-- Records what became of the wire of the last answer, and the time it took. -/
def settle (n : Network) (wire : Wire) : Network :=
  { n with
    clock := n.clock + wire.waited
    exchanges := n.exchanges.dropLast ++ (n.exchanges.getLast?.map fun e =>
      { e with wire := some wire }).toList }

end Network

end HttpCourier
