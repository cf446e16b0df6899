import HttpCourier.Cli.Help
import HttpCourier.Cli.Options
import HttpCourier.Files
import HttpCourier.Item.Basic
import HttpCourier.Log.Render
import HttpCourier.Text.Blank

/-!
# Commands

`Command.ofArguments` reads a command line: what the program is asked to do, or a `UsageError`.
Files that are named on the command line have to exist.
-/

namespace HttpCourier.Cli

open Text

/-- What is wrong with a command line. -/
inductive Misuse where
  | badOption (e : OptionError)
  /-- There are no arguments at all. -/
  | nothing
  | noCommand
  | unknownCommand (name : String)
  | missingOption (name : String)
  | noSuchFile (option kind path : String)
  | isDirectory (option kind path : String)
  | badAttribute (pair : String)
  | extraArguments (arguments : List String)
  deriving DecidableEq, Repr

/-- The words for a path that an option cannot have. -/
def badValue (option kind path problem : String) : String :=
  "Invalid value for " ++ option ++ ": " ++ kind ++ " " ++ quoted path ++ " " ++ problem

/-- The words for an attribute that is no pair. -/
def badPair (pair : String) : String := "Expected KEY=VALUE, got '" ++ pair ++ "'"

/-- The words for what is wrong with a command line. -/
def Misuse.message : Misuse → String
  | badOption e => e.message
  | nothing => ""
  | noCommand => "Missing command."
  | unknownCommand name => "No such command " ++ quoted name ++ "."
  | missingOption name => "Missing option '" ++ name ++ "'."
  | noSuchFile option kind path => badValue option kind path "does not exist."
  | isDirectory option kind path => badValue option kind path "is a directory."
  | badAttribute pair => "Invalid value for --attribute: " ++ badPair pair
  | extraArguments arguments =>
    "Got unexpected extra argument" ++ (if arguments.length = 1 then "" else "s") ++ " ("
      ++ " ".intercalate arguments ++ ")"

/-- What is wrong with the command line of a command. -/
structure UsageError where
  page : Page
  misuse : Misuse
  deriving DecidableEq, Repr

/-- What is said of a command line that cannot be used. -/
def UsageError.lines (e : UsageError) : List String :=
  match e.misuse with
  | .nothing => e.page.lines
  | m => [e.page.usage, e.page.hint, "", "Error: " ++ m.message]

/-- One attribute of a command line: the key is trimmed and not blank. -/
def parseAttribute (pair : String) : Except Misuse (String × String) :=
  let chars := pair.toList
  let key := trimChars (chars.takeWhile (· != '='))
  match chars.dropWhile (· != '=') with
  | [] => .error (.badAttribute pair)
  | _ :: value =>
    if key.isEmpty then .error (.badAttribute pair)
    else .ok (String.ofList key, String.ofList value)

/-- The attributes of a command line. -/
def parseAttributes (pairs : List String) : Except Misuse Attributes :=
  (pairs.mapM parseAttribute).map OrderedMap.ofPairs

/-- The options of all commands. -/
inductive Switch where
  | help
  | version
  | config
  | attribute
  | content
  | jsonLogs
  | consoleLogs
  | verbose
  deriving DecidableEq, Repr

/-- The spelling of a switch that takes no value. -/
def flag (text : String) (meaning : Switch) : Spelling Switch := { text, meaning, takesValue := false }

/-- The spelling of an option that takes a value. -/
def valued (text : String) (meaning : Switch) : Spelling Switch := { text, meaning, takesValue := true }

/-- The options of a command. -/
def spellings : Page → List (Spelling Switch)
  | .program => [flag "--version" .version, flag "--help" .help]
  | .invoke => [
    valued "--config" .config, valued "--attribute" .attribute, valued "-a" .attribute,
    valued "--content" .content, flag "--json-logs" .jsonLogs, flag "--console-logs" .consoleLogs,
    flag "--verbose" .verbose, flag "-v" .verbose, flag "--help" .help]
  | .validate => [valued "--config" .config, flag "--help" .help]

/-- What the program is asked to do in an exchange. -/
structure Invocation where
  config : String
  attributes : List String := []
  content : Option String := none
  setup : Log.Setup := {}

/-- What the program is asked to do. -/
inductive Command where
  | showVersion
  | showHelp (page : Page)
  | invoke (i : Invocation)
  | validate (config : String)

/-- Checks that a file exists. -/
def checkPath (files : Files) (option kind : String) (mayBeDirectory : Bool) (path : String) :
    Except Misuse Unit :=
  match files.read path with
  | .ok _ => .ok ()
  | .error (.isDirectory _) =>
    if mayBeDirectory then .ok () else .error (.isDirectory option kind path)
  | .error _ => .error (.noSuchFile option kind path)

namespace Scanned

/-- The values of an option, in order. -/
def valuesOf (s : Scanned Switch) (key : Switch) : List String :=
  (s.options.filter fun o => o.1 == key).filterMap Prod.snd

/-- Whether a switch is on, by the last word on it. -/
def isLast (s : Scanned Switch) (on off : Switch) (default : Bool) : Bool :=
  match (s.options.filter fun o => o.1 == on || o.1 == off).getLast? with
  | some (k, _) => k == on
  | none => default

/-- Checks the value of an option. -/
def check (s : Scanned Switch) (files : Files) (key : Switch) : Except Misuse Unit :=
  match key, (s.valuesOf key).getLast? with
  | .config, some path => checkPath files "'--config'" "Path" true path
  | .content, some path => checkPath files "'--content'" "File" false path
  | _, _ => .ok ()

/-- The path of the configuration, after all options were checked in their order. -/
def configPath (s : Scanned Switch) (files : Files) : Except Misuse String := do
  for o in s.options do
    s.check files o.1
  match (s.valuesOf .config).getLast? with
  | none => throw (.missingOption "--config")
  | some path =>
    if s.arguments.isEmpty then return path else throw (.extraArguments s.arguments)

/-- What to do in an exchange. -/
def invocation (s : Scanned Switch) (config : String) : Invocation :=
  { config, attributes := s.valuesOf .attribute, content := (s.valuesOf .content).getLast?
    setup := {
      threshold := if s.isLast .verbose .verbose false then .debug else .info
      form := if s.isLast .jsonLogs .consoleLogs true then .json else .console } }

end Scanned

namespace Command

/-- The page of a command. -/
def pageOf? (name : String) : Option Page :=
  if name = "invoke" then some .invoke else if name = "validate" then some .validate else none

/-- Reads the arguments of one of the two commands. -/
def ofPage (files : Files) (page : Page) (arguments : List String) : Except Misuse Command := do
  let s ← (scan (spellings page) true arguments).mapError Misuse.badOption
  if s.options.any fun o => o.1 == .help then return showHelp page
  let config ← s.configPath files
  return if page = .invoke then invoke (s.invocation config) else validate config

/-- Reads a command line. -/
def ofArguments (files : Files) (arguments : List String) : Except UsageError Command := do
  let misused (m : Misuse) : UsageError := { page := .program, misuse := m }
  if arguments.isEmpty then throw (misused .nothing)
  let s ← (scan (spellings .program) false arguments).mapError fun e => misused (.badOption e)
  match s.options, s.arguments with
  | (.version, _) :: _, _ => return showVersion
  | _ :: _, _ => return showHelp .program
  | [], [] => throw (misused .noCommand)
  | [], name :: rest =>
    match pageOf? name with
    | none => throw (misused (.unknownCommand name))
    | some page => (ofPage files page rest).mapError fun m => { page, misuse := m }

end Command

end HttpCourier.Cli
