import HttpCourier.Cli.Command
import HttpCourier.Cli.Summary
import HttpCourier.Config.Loading
import HttpCourier.Processor
import HttpCourier.Tls.Library

/-!
# Running a command

`run` does what a command line asks for, in a `World` of files, an environment and a network, and
gives a `Report` of all that is printed and how the program ends.
-/

namespace HttpCourier.Cli

/-- What a program runs in. -/
structure World where
  files : Files := []
  environment : OrderedMap String String := []
  network : Network := {}
  /-- Whether the connections are the program's own. -/
  opensConnections : Bool := true
  /-- The nonces that its clients draw. -/
  nonces : Nat → UInt64 := fun _ => 0
  /-- The time in seconds. -/
  now : Int := 0

/-- Where a program builds its transports. -/
def World.workshop (w : World) : Workshop :=
  { files := w.files, library := .pem, opensConnections := w.opensConnections, nonces := w.nonces }

/-- What a program did. -/
structure Report where
  exitCode : Nat := 0
  /-- The lines of its output. -/
  output : List String := []
  /-- The lines of its complaints. -/
  complaints : List String := []
  /-- The summary at the end of its output. -/
  summary : Option Log.Value := none
  /-- The kind and the words of a fault that nothing handled. -/
  escaped : Option (String × String) := none
  exchanges : List Exchange := []
  setup : Log.Setup := {}
  log : List Log.Record := []

namespace Report

/-- The report of a command line that cannot be used. -/
def misused (e : UsageError) : Report := { exitCode := 2, complaints := e.lines }

/-- The report of a fault that nothing handled. -/
def escape (label message : String) : Report := { exitCode := 1, escaped := some (label, message) }

/-- A complaint about one issue of a configuration. -/
def issueLine (i : Config.Issue) : String :=
  "  - " ++ (if i.location.isEmpty then "<root>" else i.location) ++ ": " ++ i.message

/-- The report of a configuration that is not loaded. -/
def notLoaded (e : Config.LoadError) : Report :=
  match e with
  | .rejected _ issues =>
    { exitCode := 1, complaints := "Configuration validation failed:" :: issues.map issueLine }
  | _ => escape e.label e.message

end Report

/-- The version of the program. -/
def version : String := "0.1.0"

/-- Validates a configuration. -/
def validate (w : World) (path : String) : Report :=
  match ({} : Config.Loader).load w.environment w.files path with
  | (.error e, _) => .notLoaded e
  | (.ok c, loader) => { output := [
      "Configuration is valid!",
      "  Method: " ++ c.request.method,
      "  URL: " ++ c.request.url,
      "  Checksum: " ++ loader.checksum.getD "None"] }

/-- The item that a command line describes, if it describes one. -/
def itemOf (w : World) (i : Invocation) (attributes : Attributes) :
    Except FileError (List WorkItem × Ids) := do
  match attributes, i.content with
  | [], none => return ([], {})
  | _, none =>
    let (item, ids) := WorkItem.create {} attributes
    return ([item], ids)
  | _, some path =>
    let (item, ids) := WorkItem.create {} attributes (← w.files.read path)
    return ([item], ids)

/-- A record of this program. -/
def note (level : Log.Level) (event : String) (fields : List (String × Log.Value)) : Log.Record :=
  .of "cli" level event (("command", .text "invoke") :: fields)

/-- The report of a schedule that did not succeed. -/
def notScheduled (p : Processor) (fault : Fault) : Report :=
  if Processor.isConfiguration fault then
    { exitCode := 1, complaints := ["Error: " ++ fault.message]
      log := p.log ++ [note .error "transport_configuration_failed" [("error", .text fault.message)]] }
  else { Report.escape fault.label fault.message with log := p.log }

/-- The report of a trigger, after the processor was stopped. -/
def finished (result : Except Fault (Option Outcome)) (f : Processor.Floor) : Report :=
  let exchanges := f.network.exchanges
  let (_, p) := Step.on f.processor Processor.stop
  let log := f.desk.log ++ p.log
  match result with
  | .error fault => { Report.escape fault.label fault.message with exchanges, log }
  | .ok outcome =>
    { exitCode := if (f.desk.session.transferred .failure).isEmpty then 0 else 1
      summary := some (summary f.desk), exchanges
      log := log ++ [note .info "invoke_complete" [("outcome", .ofText? (outcome.map Outcome.name))]] }

/-- Runs one exchange with the items at hand. -/
def exchange (w : World) (c : Config) (items : List WorkItem) (ids : Ids) : Report :=
  match Step.on {} (Processor.schedule c (Transport.build w.workshop c.transport)) with
  | (.error fault, p) => notScheduled p fault
  | (.ok _, processor) =>
    let desk : Desk := { session := { incoming := items }, ids, log := processor.log }
    let (result, f) := Step.on { processor := { processor with log := [] }, desk, network := w.network }
      (Processor.trigger false w.now)
    finished result f

/-- Runs one exchange. -/
def invoke (w : World) (i : Invocation) : Report :=
  match (({} : Config.Loader).load w.environment w.files i.config).1 with
  | .error e => .notLoaded e
  | .ok c =>
    match parseAttributes i.attributes with
    | .error misuse => .misused { page := .invoke, misuse }
    | .ok attributes =>
      match itemOf w i attributes with
      | .error e => .escape e.label e.message
      | .ok (items, ids) => exchange w c items ids

/-- Does what a command asks for. -/
def runCommand (w : World) : Command → Report
  | .showVersion => { output := [Page.program.command ++ ", version " ++ version] }
  | .showHelp page => { output := page.lines }
  | .validate path => validate w path
  | .invoke i => { invoke w i with setup := i.setup }

/-- Does what a command line asks for. -/
def run (w : World) (arguments : List String) : Report :=
  match Command.ofArguments w.files arguments with
  | .error e => .misused e
  | .ok c => runCommand w c

end HttpCourier.Cli
