import HttpCourier.Bytes.Basic
import HttpCourier.Number.Binary64
import HttpCourier.Text.Loose

/-!
# Configuration data

What a configuration document holds before it is checked: nothing, switches, numbers, texts, lists
and mappings. The entries of a mapping stand in the order of the document. A text with lone
surrogates is a value of its own (`Data.torn`), since most readers of texts refuse it.
-/

namespace HttpCourier

/-- A value of a configuration document. -/
inductive Data where
  | null
  | flag (b : Bool)
  | whole (n : Int)
  | real (x : Binary64)
  | text (s : String)
  /-- A text with surrogates in it. -/
  | torn (t : TornText)
  | bytes (b : Bytes)
  | list (items : List Data)
  | map (entries : List (Data × Data))
  /-- A value of another kind, known by the name of the kind and by how it is written. -/
  | other (kind shown : String)

namespace Data

/-- The name of the kind of a value. -/
def kindName : Data → String
  | null => "NoneType"
  | flag _ => "bool"
  | whole _ => "int"
  | real _ => "float"
  | text _ | torn _ => "str"
  | bytes _ => "bytes"
  | list _ => "list"
  | map _ => "dict"
  | other kind _ => kind

/-- Whether a value is empty: nothing, false, zero, or without members. -/
def isEmpty : Data → Bool
  | null => true
  | flag b => !b
  | whole n => n == 0
  | real (.finite _ m _) => m == 0
  | real _ => false
  | text s => s.isEmpty
  | torn _ => false
  | bytes b => b.isEmpty
  | list items => items.isEmpty
  | map entries => entries.isEmpty
  | other _ _ => false

/-- A text as a value. -/
def ofLoose : LooseText → Data
  | .whole s => text s
  | .torn t => torn t

/-- Whether a value is a text with surrogates in it. -/
def isTorn : Data → Bool
  | torn _ => true
  | _ => false

/-- The text of a value that is one. -/
def text? : Data → Option String
  | text s => some s
  | _ => none

/-- The entries of a value that is a mapping. -/
def entries? : Data → Option (List (Data × Data))
  | map entries => some entries
  | _ => none

/-- Whether a key is the given text. -/
def isKey (name : String) (d : Data) : Bool :=
  match d with
  | text s => s == name
  | _ => false

/-- The value of a text key. -/
def lookup (name : String) : List (Data × Data) → Option Data
  | [] => none
  | (k, v) :: rest => if isKey name k then some v else lookup name rest

/-- Writes the value of a text key, in place when the key is known and at the end when it is new. -/
def insert (name : String) (value : Data) : List (Data × Data) → List (Data × Data)
  | [] => [(text name, value)]
  | (k, v) :: rest =>
    if isKey name k then (k, value) :: rest else (k, v) :: insert name value rest

/-- A value as a number; switches are zero and one. -/
def number? : Data → Option Binary64
  | flag b => some (.ofNat (if b then 1 else 0))
  | whole n => some (.ofInt n)
  | real x => some x
  | _ => none

/-- Whether two values are the same key. -/
def isSameKey (a b : Data) : Bool :=
  match a, b with
  | text s, text t => s == t
  | torn s, torn t => decide (s = t)
  | bytes s, bytes t => s == t
  | null, null => true
  | whole m, whole n => m == n
  | _, _ =>
    match a.number?, b.number? with
    | some x, some y => x.le y && y.le x
    | _, _ => false

/-- Writes the value of any key, in place when the key is known and at the end when it is new. -/
def put (key value : Data) : List (Data × Data) → List (Data × Data)
  | [] => [(key, value)]
  | (k, v) :: rest => if isSameKey k key then (k, value) :: rest else (k, v) :: put key value rest

/-- The entries of the mapping under a key; none when there is no mapping. -/
def section? (name : String) (entries : List (Data × Data)) : List (Data × Data) :=
  ((lookup name entries).bind entries?).getD []

end Data

end HttpCourier
