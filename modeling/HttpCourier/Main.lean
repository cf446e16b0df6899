import Std.Time.DateTime.Timestamp
import HttpCourier.Cli.Run

/-!
# The program

`main` reads the files that the command line and the configuration name, runs the command, and
prints its report: records and complaints on one stream, the output on the other. The program opens
no connections, so every exchange ends as with servers that cannot be reached.
-/

namespace HttpCourier.Cli

/-- The files at paths, as far as they can be read. -/
def readFiles (paths : List String) : IO Files := do
  let mut files : Files := []
  for path in paths do
    try
      files := files ++ [(path, (← IO.FS.readBinFile path).toList)]
    catch _ => pure ()
  return files

/-- The texts of a command line that may be paths. -/
def mentioned (arguments : List String) : List String :=
  arguments ++ arguments.map fun a => String.ofList ((a.toList.dropWhile (· != '=')).drop 1)

/-- The variables of the environment that have a meaning. -/
def readEnvironment : IO (OrderedMap String String) := do
  let mut known : OrderedMap String String := []
  for name in [Secrets.authVariable, Secrets.proxyVariable, Secrets.keystoreVariable] do
    let name := name.toUpper
    if let some value ← IO.getEnv name then known := known ++ [(name, value)]
  return known

/-- The files that the configuration names, if it can be loaded. -/
def namedFiles (w : World) (arguments : List String) : List String :=
  match Command.ofArguments w.files arguments with
  | .ok (.invoke i) =>
    match (({} : Config.Loader).load w.environment w.files i.config).1 with
    | .ok c => ((c.transport.tls.map Config.Tls.paths).getD []).filterMap fun p => p.checked.toOption
    | .error _ => []
  | _ => []

/-- The id of a run, from random bytes. -/
def runIdOf (bytes : List UInt8) : String :=
  let part (skip count : Nat) : String := Bytes.toHex ((bytes.drop skip).take count)
  "-".intercalate [part 0 4, part 4 2, part 6 2, part 8 2, part 10 6]

/-- Client nonces, from random bytes. -/
def noncesOf (bytes : List UInt8) (n : Nat) : UInt64 :=
  ((Hash.Sha256.hash (bytes ++ Bytes.ofString (toString n))).take 8).foldl
    (fun bits b => 256 * bits + b.toUInt64) 0

end HttpCourier.Cli

open HttpCourier Cli

def main (arguments : List String) : IO UInt32 := do
  let now ← Std.Time.Timestamp.now
  let seconds := now.toSecondsSinceUnixEpoch.val
  let files ← readFiles (Secrets.environmentFile :: mentioned arguments)
  let random := (← IO.getRandomBytes 32).toList
  let world : World := {
    files, environment := ← readEnvironment, nonces := noncesOf random, now := seconds }
  let more ← readFiles (namedFiles world arguments)
  let report := run { world with files := files ++ more } arguments
  let id := runIdOf (← IO.getRandomBytes 16).toList
  for record in report.log do
    if report.setup.accepts record then
      IO.eprintln (report.setup.write (HttpDate.calendarText seconds) (some id) record)
  for line in report.complaints do IO.eprintln line
  for line in report.output do IO.println line
  if let some value := report.summary then IO.println value.indented
  if let some (kind, words) := report.escaped then IO.eprintln (kind ++ ": " ++ words)
  return report.exitCode.toUInt32
