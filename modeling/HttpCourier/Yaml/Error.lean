/-!
# Faulty documents

Why a document cannot be loaded, by the stage at which the fault shows. Values that look like a
number, a date or a switch and are none have words of their own, and so has a document that is
nested too deeply; for the other faults the kind is all that is reported.
-/

namespace HttpCourier.Yaml

/-- Why a document cannot be loaded. -/
inductive Error where
  /-- A character may not stand in a document. -/
  | character
  /-- No token can be read. -/
  | token
  /-- The tokens do not form a document. -/
  | grammar
  /-- An alias or an anchor does not fit, or there is more than one document. -/
  | reference
  /-- A node cannot be turned into a value. -/
  | value
  /-- A value of a known type is not one, or the reader cannot get to the end of the document: the
  kind of the fault and its words. -/
  | unsound (kind message : String)
  deriving DecidableEq, Repr

/-- A document that is nested too deeply, or that leads a value back to itself. -/
def Error.endless : Error := .unsound "RecursionError" "maximum recursion depth exceeded"

/-- The name of the kind of a fault. -/
def Error.label : Error → String
  | character => "ReaderError"
  | token => "ScannerError"
  | grammar => "ParserError"
  | reference => "ComposerError"
  | value => "ConstructorError"
  | unsound kind _ => kind

/-- The words for a fault. -/
def Error.message : Error → String
  | unsound _ message => message
  | _ => ""

/-- Whether a fault is one of the document's form that readers report as such. -/
def Error.isFormal : Error → Bool
  | unsound .. => false
  | _ => true

end HttpCourier.Yaml
