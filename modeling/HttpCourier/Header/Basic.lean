import HttpCourier.Item.Expression
import HttpCourier.Text.Case

/-!
# Header fields and attributes

A header collection is a list of names with values, in the order of arrival. `toAttributes` groups
the fields of one name, whatever its case, under the first spelling seen; `ofAttributes` selects the
attributes that are sent as header fields.
-/

namespace HttpCourier

/-- Names and values of header fields, in order; a name may repeat. -/
abbrev Headers := List (String × String)

namespace Headers

open Text

/-- The values of one name as one text. A single value is kept as it is; of several the blanks
around each are dropped, and blank ones are left out. -/
def joinValues : List String → String
  | [] => ""
  | [value] => value
  | values => ", ".intercalate ((values.map trim).filter fun v => !v.isEmpty)

/-- The values of a name, whatever its case. -/
def valuesOf (headers : Headers) (name : String) : List String :=
  (headers.filter fun field => sameName field.1 name).map Prod.snd

/-- The fields of one name: its first spelling and its values in order of arrival. -/
structure Group where
  name : String
  values : List String

/-- Adds a field to the group of its name, or starts one. -/
def addToGroups : List Group → String → String → List Group
  | [], name, value => [⟨name, [value]⟩]
  | g :: rest, name, value =>
    if sameName g.name name then { g with values := g.values ++ [value] } :: rest
    else g :: addToGroups rest name value

/-- The fields grouped by name, in the order of first appearance. -/
def groups (headers : Headers) : List Group :=
  headers.foldl (fun gs field => addToGroups gs field.1 field.2) []

/-- Header fields as attributes: one per name, under its first spelling. -/
def toAttributes (headers : Headers) : Attributes :=
  headers.groups.map fun g => (g.name, joinValues g.values)

/-- The attributes that are sent as header fields: those whose trimmed key is not `reserved` and is
accepted by `selects`. Without a selection nothing is sent. -/
def ofAttributes (reserved : List String) (selects : Option (String → Bool))
    (attributes : Attributes) : Headers :=
  match selects with
  | none => []
  | some accepts =>
    attributes.filterMap fun (key, value) =>
      let name := trim key
      if reserved.contains name then none
      else if accepts name then some (name, trim value)
      else none

end Headers

end HttpCourier
