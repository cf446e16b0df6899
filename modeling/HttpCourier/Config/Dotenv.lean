import HttpCourier.OrderedMap
import HttpCourier.Text.Blank

/-!
# Environment files

An environment file has one variable a line, `NAME=value`, with comments after `#`. A value may be
quoted, and outside and inside quotes `$\x7bNAME\x7d` stands for another variable. A line that
cannot be read is skipped.
-/

namespace HttpCourier.Dotenv

open Text

/-- Whether a character ends a line. -/
def isLineEnd (c : Char) : Bool := c == '\n' || c == '\x0d'

/-- Whether a character is a blank inside a line. -/
def isSpace (c : Char) : Bool := isBlank c && !isLineEnd c

/-- Drops the blanks a text starts with, up to the end of the line. -/
def skipSpace (s : List Char) : List Char := s.dropWhile isSpace

/-- Drops the rest of a line with its end. -/
def skipLine (s : List Char) : List Char := (s.dropWhile fun c => !isLineEnd c).drop 1

/-- Drops the word `export` and the blanks after it. -/
def skipExport (s : List Char) : List Char :=
  let word := "export".toList
  if word.isPrefixOf s && ((s.drop word.length).head?.any isSpace) then skipSpace (s.drop word.length)
  else s

/-- Reads up to a closing quote; a backslash before a quote keeps it, unless no other quote
closes. -/
def quotedPart? (quote : Char) : List Char → Option (List Char × List Char)
  | [] => none
  | '\\' :: c :: rest =>
    if c == quote then
      match quotedPart? quote rest with
      | some (v, r) => some ('\\' :: c :: v, r)
      | none => some (['\\'], rest)
    else (quotedPart? quote (c :: rest)).map fun (v, r) => ('\\' :: v, r)
  | c :: rest =>
    if c == quote then some ([], rest) else (quotedPart? quote rest).map fun (v, r) => (c :: v, r)
termination_by s => s.length

/-- The characters that a backslash stands for before a letter, in double quotes. -/
def escapes : List (Char × Char) :=
  [('\\', '\\'), ('\'', '\''), ('"', '"'), ('a', '\x07'), ('b', '\x08'), ('f', '\x0c'), ('n', '\n'),
    ('r', '\x0d'), ('t', '\t'), ('v', '\x0b')]

/-- Replaces the escapes of a quoted value. -/
def unescape (known : List (Char × Char)) : List Char → List Char
  | '\\' :: c :: rest =>
    match known.lookup c with
    | some d => d :: unescape known rest
    | none => '\\' :: unescape known (c :: rest)
  | c :: rest => c :: unescape known rest
  | [] => []
termination_by s => s.length

/-- Drops a comment that follows blanks. -/
def dropComment : List Char → List Char
  | [] => []
  | c :: rest =>
    if isBlank c && ((rest.dropWhile isBlank).head? == some '#') then []
    else c :: dropComment rest

/-- Reads the name of a variable; a comment has none. -/
def key? (s : List Char) : Option (Option String × List Char) :=
  match s with
  | '#' :: _ => some (none, s)
  | '\'' :: rest =>
    match rest.takeWhile (· != '\''), rest.dropWhile (· != '\'') with
    | c :: name, _ :: after => some (some (String.ofList (c :: name)), after)
    | _, _ => none
  | _ =>
    let isKeyChar (c : Char) : Bool := c != '=' && c != '#' && !isBlank c
    match s.takeWhile isKeyChar with
    | [] => none
    | name => some (some (String.ofList name), s.dropWhile isKeyChar)

/-- Reads the value of a variable. -/
def value? (s : List Char) : Option (String × List Char) :=
  match s with
  | [] => some ("", [])
  | '\'' :: rest => (quotedPart? '\'' rest).map fun (v, r) =>
    (String.ofList (unescape (escapes.take 2) v), r)
  | '"' :: rest => (quotedPart? '"' rest).map fun (v, r) => (String.ofList (unescape escapes v), r)
  | _ =>
    let line := s.takeWhile fun c => !isLineEnd c
    some (String.ofList (trimRight (dropComment line)), s.drop line.length)

/-- A variable and its value; a variable without an equals sign has none. -/
abbrev Binding := String × Option String

/-- Reads one line that does not start with a blank: its variable, if it has one, and what follows;
or the place where it cannot be read on. -/
def readLine (s : List Char) : Except (List Char) (Option Binding × List Char) := do
  let start := skipExport s
  let (key, rest) ← (key? start).elim (.error start) .ok
  let rest := skipSpace rest
  let (value, rest) ← match rest with
    | '=' :: rest =>
      let start := skipSpace rest
      (value? start).elim (.error start) fun (v, r) => .ok (some v, r)
    | _ => .ok (none, rest)
  let rest := skipSpace rest
  let rest := if rest.head? == some '#' then rest.dropWhile fun c => !isLineEnd c else rest
  match rest with
  | [] => .ok (key.map fun k => (k, value), [])
  | c :: after => if isLineEnd c then .ok (key.map fun k => (k, value), after) else .error rest

/-- Reads the lines of a file; `fuel` bounds their number. -/
def lines : (fuel : Nat) → List Char → List Binding
  | 0, _ => []
  | fuel + 1, s =>
    match s.dropWhile isBlank with
    | [] => []
    | s =>
      match readLine s with
      | .ok (some binding, rest) => binding :: lines fuel rest
      | .ok (none, rest) => lines fuel rest
      | .error rest => lines fuel (skipLine rest)

/-- The name and the default of a reference to a variable, and what follows it. -/
def reference? (s : List Char) : Option (String × String × List Char) :=
  let isNameChar (c : Char) : Bool := c != '}' && c != ':'
  let name := String.ofList (s.takeWhile isNameChar)
  match s.dropWhile isNameChar with
  | '}' :: rest => some (name, "", rest)
  | ':' :: '-' :: rest =>
    match rest.dropWhile (· != '}') with
    | _ :: after => some (name, String.ofList (rest.takeWhile (· != '}')), after)
    | [] => none
  | _ => none

/-- Replaces the references of a value; `fuel` bounds the steps. -/
def expand (known : OrderedMap String (Option String)) : (fuel : Nat) → List Char → List Char
  | 0, s => s
  | _ + 1, [] => []
  | fuel + 1, c :: rest =>
    match c, rest with
    | '$', '{' :: inner =>
      match reference? inner with
      | some (name, default, after) =>
        (((known.get? name).getD (some default)).getD "").toList ++ expand known fuel after
      | none => c :: expand known fuel rest
    | _, _ => c :: expand known fuel rest

/-- A text whose lines all end in a line feed. -/
def unifyLines : List Char → List Char
  | '\x0d' :: '\n' :: rest => '\n' :: unifyLines rest
  | '\x0d' :: rest => '\n' :: unifyLines rest
  | c :: rest => c :: unifyLines rest
  | [] => []

/-- The variables of a file, given those of the environment. -/
def read (environment : OrderedMap String String) (text : List Char) :
    OrderedMap String (Option String) :=
  let text := unifyLines text
  let bindings := OrderedMap.ofPairs (lines (text.length + 1) text)
  bindings.foldl (fun done (name, value) =>
    let known := OrderedMap.setAll (environment.map fun (k, v) => (k, some v)) done
    done.set name (value.map fun v => String.ofList (expand known (v.length + 1) v.toList))) []

end HttpCourier.Dotenv
