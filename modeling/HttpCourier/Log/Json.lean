import HttpCourier.Log.Record
import HttpCourier.Number.Shortest
import HttpCourier.Text.Quoted

/-!
# Values as JSON

`Value.compact` writes a value on one line, and `Value.indented` with one member on each line. All
characters outside printable ASCII are escaped. `Value.sorted` puts the members of objects into the
order of their names.
-/

namespace HttpCourier.Log

open Text

/-- An escape by code unit. -/
def escapeUnit (n : Nat) : List Char := '\\' :: 'u' :: hexDigits 4 n

/-- One character of a JSON text. -/
def jsonChar (c : Char) : List Char :=
  let n := c.toNat
  if c = '"' || c = '\\' then ['\\', c]
  else if c = '\n' then ['\\', 'n']
  else if c = '\t' then ['\\', 't']
  else if c = '\x0d' then ['\\', 'r']
  else if n = 8 then ['\\', 'b']
  else if n = 12 then ['\\', 'f']
  else if 32 ≤ n ∧ n < 127 then [c]
  else if n < 0x10000 then escapeUnit n
  else escapeUnit (0xd800 + (n - 0x10000) / 1024) ++ escapeUnit (0xdc00 + (n - 0x10000) % 1024)

/-- A JSON text. -/
def jsonText (s : String) : String := String.ofList ('"' :: s.toList.flatMap jsonChar ++ ['"'])

/-- A JSON number; the values that are no numbers have names. -/
def jsonReal : Binary64 → String
  | .nan => "NaN"
  | .infinite negative => if negative then "-Infinity" else "Infinity"
  | x => x.text

/-- Members of an object or of a list between brackets, which stand alone when there are none. -/
def bracketed (left right between : String) (parts : List String) : String :=
  left ++ between.intercalate parts ++ right

namespace Value

/-- A value without members. -/
def leaf : Value → String
  | absent => "null"
  | flag b => if b then "true" else "false"
  | number n => toString n
  | real x => jsonReal x
  | text s => jsonText s
  | fields _ | list _ | object _ => ""

/-- The name and the value of a member. -/
def member (name value : String) : String := jsonText name ++ ": " ++ value

mutual

/-- A value on one line. -/
def compact : Value → String
  | fields pairs =>
    bracketed "\x7b" "\x7d" ", " (pairs.map fun p => member p.1 (jsonText p.2))
  | list values => bracketed "[" "]" ", " (compactAll values)
  | object members => bracketed "\x7b" "\x7d" ", " (compactMembers members)
  | v => leaf v

/-- The values of a list on one line. -/
def compactAll : List Value → List String
  | [] => []
  | v :: rest => compact v :: compactAll rest

/-- The members of an object on one line. -/
def compactMembers : List (String × Value) → List String
  | [] => []
  | (name, v) :: rest => member name (compact v) :: compactMembers rest

end

/-- The start of a line at a depth. -/
def lineStart (depth : Nat) : String := String.ofList ('\n' :: List.replicate (2 * depth) ' ')

/-- Members on lines of their own. -/
def onLines (left right : String) (depth : Nat) (parts : List String) : String :=
  if parts.isEmpty then left ++ right
  else bracketed (left ++ lineStart (depth + 1)) (lineStart depth ++ right)
    ("," ++ lineStart (depth + 1)) parts

mutual

/-- A value with its members on lines of their own, at a depth. -/
def indentedAt (depth : Nat) : Value → String
  | fields pairs => onLines "\x7b" "\x7d" depth (pairs.map fun p => member p.1 (jsonText p.2))
  | list values => onLines "[" "]" depth (indentedAll (depth + 1) values)
  | object members => onLines "\x7b" "\x7d" depth (indentedMembers (depth + 1) members)
  | v => leaf v

/-- The values of a list at a depth. -/
def indentedAll (depth : Nat) : List Value → List String
  | [] => []
  | v :: rest => indentedAt depth v :: indentedAll depth rest

/-- The members of an object at a depth. -/
def indentedMembers (depth : Nat) : List (String × Value) → List String
  | [] => []
  | (name, v) :: rest => member name (indentedAt depth v) :: indentedMembers depth rest

end

/-- A value with its members on lines of their own. -/
def indented (v : Value) : String := indentedAt 0 v

/-- Named things in the order of their names. -/
def byName {α : Type} (members : List (String × α)) : List (String × α) :=
  members.mergeSort fun a b => !decide (b.1 < a.1)

mutual

/-- A value with the members of objects in the order of their names. -/
def sorted : Value → Value
  | fields pairs => fields (byName pairs)
  | list values => list (sortedAll values)
  | object members => object (byName (sortedMembers members))
  | v => v

/-- The values of a list with their members in order. -/
def sortedAll : List Value → List Value
  | [] => []
  | v :: rest => sorted v :: sortedAll rest

/-- The members of an object with their members in order. -/
def sortedMembers : List (String × Value) → List (String × Value)
  | [] => []
  | (name, v) :: rest => (name, sorted v) :: sortedMembers rest

end

end Value

end HttpCourier.Log
