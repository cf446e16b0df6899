import HttpCourier.Text.Quoted

/-!
# Options of a command line

`scan` reads the arguments of a command: options with the values they take, and the arguments that
are no options. An option is a switch or takes a value; a short one may stand in a cluster, and a
long one may have its value behind an equals sign.
-/

namespace HttpCourier.Cli

open Text

/-- One spelling of an option, and what it stands for. -/
structure Spelling (κ : Type) where
  text : String
  meaning : κ
  takesValue : Bool

/-- What is wrong with an option. -/
inductive OptionError where
  | unknown (text : String)
  | lacksValue (text : String)
  | takesNoValue (text : String)
  deriving DecidableEq, Repr

/-- The words for what is wrong with an option. -/
def OptionError.message : OptionError → String
  | unknown text => "No such option " ++ quoted text ++ "."
  | lacksValue text => "Option " ++ quoted text ++ " requires an argument."
  | takesNoValue text => "Option " ++ quoted text ++ " does not take a value."

/-- An option in an argument: it stands with its value, if it takes one, or the value is the next
argument. -/
inductive Found (κ : Type) where
  | whole (meaning : κ) (value : Option String)
  | waiting (meaning : κ) (text : String)

/-- What the arguments of a command come to. -/
structure Scanned (κ : Type) where
  options : List (κ × Option String) := []
  arguments : List String := []

variable {κ : Type}

/-- The option of a spelling. -/
def spelled? (spellings : List (Spelling κ)) (text : String) : Option (Spelling κ) :=
  spellings.find? fun s => s.text == text

/-- An option that is written out, with the value behind its equals sign. -/
def foundLong (s : Spelling κ) (value : Option String) : Except OptionError (Found κ) :=
  match s.takesValue, value with
  | true, some v => .ok (.whole s.meaning (some v))
  | true, none => .ok (.waiting s.meaning s.text)
  | false, some _ => .error (.takesNoValue s.text)
  | false, none => .ok (.whole s.meaning none)

/-- The options of a cluster behind its dash. -/
def foundShort (spellings : List (Spelling κ)) : List Char → Except OptionError (List (Found κ))
  | [] => .ok []
  | c :: rest =>
    let text := String.ofList ['-', c]
    match spelled? spellings text with
    | none => .error (.unknown text)
    | some s =>
      if !s.takesValue then (foundShort spellings rest).map (.whole s.meaning none :: ·)
      else if rest.isEmpty then .ok [.waiting s.meaning text]
      else .ok [.whole s.meaning (some (String.ofList rest))]

/-- Whether an argument is an option. -/
def isOption (argument : String) : Bool :=
  match argument.toList with
  | '-' :: _ :: _ => true
  | _ => false

/-- The options in an argument. -/
def found (spellings : List (Spelling κ)) (argument : String) : Except OptionError (List (Found κ)) :=
  let chars := argument.toList
  let name := String.ofList (chars.takeWhile (· != '='))
  let value := match chars.dropWhile (· != '=') with
    | [] => none
    | _ :: v => some (String.ofList v)
  match spelled? spellings name with
  | some s => (foundLong s value).map fun f => [f]
  | none =>
    if chars.take 2 == ['-', '-'] then .error (.unknown name)
    else foundShort spellings chars.tail

/-- Adds options that have their values. -/
def Scanned.withOptions (options : List (κ × Option String)) (s : Scanned κ) : Scanned κ :=
  { s with options := options ++ s.options }

/-- Adds an argument that is no option. -/
def Scanned.withArgument (argument : String) (s : Scanned κ) : Scanned κ :=
  { s with arguments := argument :: s.arguments }

/-- The options that have their values, and the last one if it waits for its value. -/
def settle : List (Found κ) → List (κ × Option String) × Option (κ × String)
  | [] => ([], none)
  | .whole m v :: rest => let (done, last) := settle rest; ((m, v) :: done, last)
  | .waiting m text :: _ => ([], some (m, text))

/-- Reads arguments. Unless options may stand behind other arguments, the first argument that is no
option ends the reading. -/
def scan (spellings : List (Spelling κ)) (interspersed : Bool) :
    List String → Except OptionError (Scanned κ)
  | [] => .ok {}
  | "--" :: rest => .ok { arguments := rest }
  | argument :: rest =>
    if !isOption argument then
      if interspersed then (scan spellings interspersed rest).map (·.withArgument argument)
      else .ok { arguments := argument :: rest }
    else
      match found spellings argument with
      | .error e => .error e
      | .ok options =>
        match settle options, rest with
        | (done, none), rest => (scan spellings interspersed rest).map (·.withOptions done)
        | (done, some (m, _)), value :: rest =>
          (scan spellings interspersed rest).map (·.withOptions (done ++ [(m, some value)]))
        | (_, some (_, text)), [] => .error (.lacksValue text)

end HttpCourier.Cli
