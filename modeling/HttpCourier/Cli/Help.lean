/-!
# Pages of help

Each command has a page that says how it is used. The first line of a page is the usage; it is also
shown above what is wrong with a command line.
-/

namespace HttpCourier.Cli

/-- The commands that have a page: the program itself, and its two commands. -/
inductive Page where
  | program
  | invoke
  | validate
  deriving DecidableEq, Repr

namespace Page

/-- The words of a command line that lead to a command. -/
def command : Page → String
  | program => "cli"
  | invoke => "cli invoke"
  | validate => "cli validate"

/-- The usage of a command. -/
def usage : Page → String
  | program => "Usage: " ++ program.command ++ " [OPTIONS] COMMAND [ARGS]..."
  | p => "Usage: " ++ p.command ++ " [OPTIONS]"

/-- The advice to look at a page. -/
def hint (p : Page) : String := "Try '" ++ p.command ++ " --help' for help."

/-- The text of a page below the usage. -/
def body : Page → List String
  | program => [
    "",
    "  Invoke HTTP endpoints for work items.",
    "",
    "Options:",
    "  --version  Show the version and exit.",
    "  --help     Show this message and exit.",
    "",
    "Commands:",
    "  invoke    Run one exchange and print where the work items went.",
    "  validate  Validate a configuration file without sending any request."]
  | invoke => [
    "",
    "  Run one exchange and print where the work items went.",
    "",
    "  Without attributes or content the exchange runs source-style, with no",
    "  incoming work item. Exits with status 1 when the item reached Failure.",
    "",
    "Options:",
    "  --config PATH                 Path to the YAML configuration file.",
    "                                [required]",
    "  -a, --attribute TEXT          Work item attribute as KEY=VALUE (repeatable).",
    "  --content FILE                File whose bytes become the work item payload.",
    "  --json-logs / --console-logs  Use JSON format for logs (default: true).",
    "  -v, --verbose                 Enable debug logging, including request and",
    "                                response headers.",
    "  --help                        Show this message and exit."]
  | validate => [
    "",
    "  Validate a configuration file without sending any request.",
    "",
    "Options:",
    "  --config PATH  Path to the YAML configuration file.  [required]",
    "  --help         Show this message and exit."]

/-- All lines of a page. -/
def lines (p : Page) : List String := p.usage :: p.body

end Page

end HttpCourier.Cli
