import HttpCourier.Holder
import HttpCourier.Transport
import HttpCourier.Trigger

/-!
# The processor

A `Processor` is scheduled with a configuration, triggered any number of times, and stopped. While
it runs it holds a transport; each trigger works with a lease on it.
-/

namespace HttpCourier

instance : Closable Transport := ⟨Transport.close⟩

/-- A processor. -/
structure Processor where
  lifecycle : Lifecycle := .stopped
  holder : Holder Transport := {}
  /-- The duty of the last successful schedule. -/
  duty : Option Duty := none
  chunkSize : Nat := Draft.defaultChunkSize
  log : List Log.Record := []

namespace Processor

/-- Adds records to the log. -/
def note (records : List Log.Record) : Step Processor Unit :=
  modify fun p => { p with log := p.log ++ records }

/-- Moves to another state. -/
def move (target : Lifecycle) : Step Processor Unit := do
  let p ← get
  let (result, record) := p.lifecycle.move target
  note [record]
  let lifecycle ← Step.ofExcept (result.mapError Fault.refused)
  modify fun p => { p with lifecycle }

/-- Whether a fault says that the configuration cannot be used. -/
def isConfiguration (fault : Fault) : Bool := fault.label == FailureKind.configuration.label

/-- Takes note of a build that did not succeed. -/
def refuse (fault : Fault) : Step Processor Unit := do
  if isConfiguration fault then
    note [.of "processor" .error "schedule_failed" [("error", .text fault.message)]]
    move .invalid
  throw fault

/-- Starts to work under a configuration; `built` is the transport that was built for it. Whether
the configuration gives a duty is only known when that transport is in use. -/
def schedule (config : Config) (built : Except Fault (Transport × List Log.Record)) :
    Step Processor Unit := do
  let p ← get
  if p.lifecycle = .running then throw (.refused ⟨.running, .running⟩)
  match built with
  | .error fault => refuse fault
  | .ok (transport, log) =>
    let (holder, deferred) := p.holder.install transport
    set { p with holder }
    note (log ++ deferred)
    let duty ← Step.ofExcept (Duty.ofConfig config)
    modify fun p => { p with duty := some duty }
    move .running

/-- Stops to work. -/
def stop : Step Processor Unit := do
  let p ← get
  if p.lifecycle = .stopped then return ()
  let (holder, deferred) := p.holder.clear
  set { p with holder }
  note deferred
  move .stopped

/-- A processor with the desk and the network that a trigger works with. -/
structure Floor where
  processor : Processor
  desk : Desk
  network : Network

/-- Runs a cycle with the transport of a number. -/
def runWith (number : Nat) (transport : Transport) (duty : Duty) (hasIncoming : Bool) (now : Int) :
    Step Floor (Option Outcome) := do
  let f ← get
  let bench : Bench := { desk := f.desk, link := { client := transport.client, network := f.network } }
  let (result, bench) := Step.on bench (Trigger.run duty f.processor.chunkSize hasIncoming now)
  let holder := f.processor.holder.put number { transport with client := bench.link.client }
  set { f with
    desk := bench.desk, network := bench.link.network, processor := { f.processor with holder } : Floor }
  Step.ofExcept result

/-- Does one cycle of work; `none` when there was nothing to do. -/
def trigger (hasIncoming : Bool) (now : Int) : Step Floor (Option Outcome) := do
  let f ← get
  Step.ofExcept (f.processor.lifecycle.requireRunning.mapError Fault.refused)
  let (receipt, holder) := f.processor.holder.lease
  match receipt, receipt.bind holder.slot?, f.processor.duty with
  | some number, some slot, some duty =>
    set { f with processor := { f.processor with holder } }
    let result ← (runWith number slot.handle duty hasIncoming now).attempt
    modify fun f => { f with
      processor := { f.processor with holder := f.processor.holder.release number } }
    Step.ofExcept result
  | _, _, _ => throw .noTransport

end Processor

end HttpCourier
