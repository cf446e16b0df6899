import HttpCourier.Config.Data
import HttpCourier.Log.Record

/-!
# Data in records

Data of a document as a value of a record. Keys that are no texts are shown by the name of their
kind, and so are values that a record cannot hold.
-/

namespace HttpCourier.Log.Value

mutual

/-- Data as a value of a record. -/
def ofData : Data → Value
  | .null => .absent
  | .flag b => .flag b
  | .whole n => .number n
  | .real x => .real x
  | .text s => .text s
  | .list items => .list (ofItems items)
  | .map entries => .object (ofEntries entries)
  | d => .text d.kindName

/-- The members of a list as values. -/
def ofItems : List Data → List Value
  | [] => []
  | d :: rest => ofData d :: ofItems rest

/-- The entries of a mapping as members of an object. -/
def ofEntries : List (Data × Data) → List (String × Value)
  | [] => []
  | (key, d) :: rest => (key.text?.getD key.kindName, ofData d) :: ofEntries rest

end

end HttpCourier.Log.Value
