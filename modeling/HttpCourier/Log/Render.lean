import HttpCourier.Log.Json
import HttpCourier.OrderedMap

/-!
# Writing records

A `Setup` says which records are written, and in which form: as JSON objects with their members in
the order of their names, or as lines for a reader. Every record of a run carries the id of the run.
-/

namespace HttpCourier.Log

open Text

/-- The form of written records. -/
inductive Form where
  | json
  | console
  deriving DecidableEq, Repr

/-- Which records are written, and how. -/
structure Setup where
  threshold : Level := .info
  form : Form := .json

/-- Whether a record is written. -/
def Setup.accepts (s : Setup) (r : Record) : Bool := decide (s.threshold.weight ≤ r.level.weight)

/-- What a record is written with. -/
abbrev Entry := OrderedMap String Value

namespace Entry

/-- The name of the id of a run. -/
def runKey : String := "run_id"

/-- The names of fields that ask for a trace; they are not written. -/
def traceKeys : List String := ["stack_info", "exc_info"]

/-- The fields of a record, after the id of the run; a field of that name wins. -/
def own (run : Option String) (r : Record) : Entry :=
  let bound : Entry := (run.map fun id => (runKey, .text id)).toList
  (bound.setAll r.fields).filter fun f => !traceKeys.contains f.1

/-- What every record says of itself. -/
def heading (timestamp : String) (r : Record) : Entry :=
  [("event", .text r.event), ("level", .text r.level.name), ("timestamp", .text timestamp)]

/-- All that is written of a record as an object, in the order of the names. -/
def full (timestamp : String) (run : Option String) (r : Record) : Entry :=
  Value.byName ((own run r).setAll (heading timestamp r))

/-- The fields of a record without those that every record has, in the order of the names. -/
def rest (run : Option String) (r : Record) : Entry :=
  Value.byName ((own run r).filter fun f => !(heading "" r).has f.1)

end Entry

/-- Whether a character makes a text stand in quotes. -/
def needsQuotes (c : Char) : Bool :=
  [' ', '\t', '=', '\x0d', '\n', '"', '\''].contains c

/-- The text of a value without members. -/
def Value.plainLeaf : Value → String
  | absent => "None"
  | flag b => if b then "True" else "False"
  | number n => toString n
  | real x => x.text
  | text s => quoted s
  | fields _ | list _ | object _ => ""

/-- A name and a value inside braces. -/
def plainMember (name value : String) : String := quoted name ++ ": " ++ value

mutual

/-- A value for a reader. -/
def Value.plain : Value → String
  | .fields pairs => bracketed "\x7b" "\x7d" ", " (pairs.map fun p => plainMember p.1 (quoted p.2))
  | .list values => bracketed "[" "]" ", " (plainAll values)
  | .object members => bracketed "\x7b" "\x7d" ", " (plainMembers members)
  | v => v.plainLeaf

/-- The values of a list for a reader. -/
def plainAll : List Value → List String
  | [] => []
  | v :: rest => Value.plain v :: plainAll rest

/-- The members of an object for a reader. -/
def plainMembers : List (String × Value) → List String
  | [] => []
  | (name, v) :: rest => plainMember name (Value.plain v) :: plainMembers rest

end

/-- A value behind its name; a text that cannot be mistaken stands without quotes. -/
def Value.bare : Value → String
  | .text s => if s.toList.any needsQuotes then quoted s else s
  | v => v.plain

/-- A text with blanks behind it up to a width. -/
def padded (width : Nat) (s : String) : String :=
  s ++ String.ofList (List.replicate (width - s.length) ' ')

/-- The width of the names of levels. -/
def levelWidth : Nat := 9

/-- The width of events. -/
def eventWidth : Nat := 30

/-- A text without the blanks at its end. -/
def trimRight (s : String) : String :=
  String.ofList ((s.toList.reverse.dropWhile (· == ' ')).reverse)

/-- The line of a record for a reader, behind the time. -/
def Record.line (run : Option String) (r : Record) : String :=
  let fields := (Entry.rest run r).map fun f => f.1 ++ "=" ++ f.2.bare
  trimRight (" ".intercalate
    (("[" ++ padded levelWidth r.level.name ++ "]") :: padded eventWidth r.event :: fields))

/-- A record as it is written. -/
def Setup.write (s : Setup) (timestamp : String) (run : Option String) (r : Record) : String :=
  match s.form with
  | .json => (Value.object (Entry.full timestamp run r)).sorted.compact
  | .console => timestamp ++ " " ++ r.line run

end HttpCourier.Log
