import HttpCourier.OrderedMap
import HttpCourier.Text.Blank

/-!
# Expressions over attributes

A configured value may hold placeholders `$\x7bname\x7d`. `Expression.expand` reads the text once,
from left to right, and puts the attribute of that name in the place of each; a name that no
attribute has stands for the empty text. What was put in is not read again.
-/

namespace HttpCourier

/-- The named text values of a work item. -/
abbrev Attributes := OrderedMap String String

namespace Expression

open Text

/-- The text up to the next closing brace, and what follows the brace; `none` when that text is
empty or no closing brace follows. -/
def name? (s : List Char) : Option (List Char × List Char) :=
  match s.dropWhile (· ≠ '}'), s.takeWhile (· ≠ '}') with
  | _ :: after, c :: name => some (c :: name, after)
  | _, _ => none

/-- What follows a placeholder is shorter than the text that begins with its name. -/
theorem length_of_name? {s name after : List Char} (h : name? s = some (name, after)) :
    after.length < s.length := by
  unfold name? at h
  split at h
  · rename_i b rest c n hd ht
    obtain ⟨rfl, rfl⟩ := by simpa using h
    have := (List.dropWhile_suffix (l := s) (p := (· ≠ '}'))).length_le
    rw [hd] at this
    simp at this
    omega
  · simp at h

/-- Expands the placeholders of a text; `value` gives the text of a name. -/
def expandChars (value : String → List Char) (s : List Char) : List Char :=
  match s with
  | [] => []
  | '$' :: '{' :: rest =>
    match _h : name? rest with
    | some (name, after) => value (String.ofList (trimChars name)) ++ expandChars value after
    | none => '$' :: expandChars value ('{' :: rest)
  | c :: rest => c :: expandChars value rest
termination_by s.length
decreasing_by
  · have := length_of_name? _h
    simp only [List.length_cons]
    omega
  · simp
  · simp

/-- Expands the placeholders of an expression with the attributes of an item. -/
def expand (expression : String) (attributes : Attributes) : String :=
  String.ofList
    (expandChars (fun name => ((attributes.get? name).getD "").toList) expression.toList)

end Expression

end HttpCourier
