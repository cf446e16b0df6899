import HttpCourier.Bytes.Utf8
import HttpCourier.Yaml.Scalar

/-!
# Tokens

A document is a sequence of tokens: marks, names, scalars, and the ends and beginnings of
collections that the indentation implies. This module reads the tokens that consist of more than a
mark.
-/

namespace HttpCourier.Yaml

/-- What a directive says. -/
inductive Directive where
  /-- The version of the format. -/
  | version (major : Nat)
  /-- What a handle in front of tags stands for. -/
  | tag (handle written : String)
  | other
  deriving DecidableEq

/-- A token. -/
inductive Token where
  | streamEnd
  | directive (d : Directive)
  | documentStart
  | documentEnd
  | blockSequenceStart
  | blockMappingStart
  | blockEnd
  | flowSequenceStart
  | flowSequenceEnd
  | flowMappingStart
  | flowMappingEnd
  | blockEntry
  | flowEntry
  | key
  | value
  | alias (name : String)
  | anchor (name : String)
  | tag (handle : Option String) (suffix : String)
  | scalar (text : LooseText) (plain : Bool)
  deriving DecidableEq

namespace Token

/-- What comes of reading a part of a token: its text and the cursor behind it. -/
abbrev Part := Except Error (String × Cursor)

/-- Reads a name, which is not empty. -/
def name (c : Cursor) : Part :=
  match c.span isNameChar with
  | ([], _) => .error .token
  | (chars, c) => .ok (String.ofList chars, c)

/-- Reads a number of decimal digits. -/
def number (c : Cursor) : Except Error (Nat × Cursor) :=
  match c.span Char.isDigit with
  | ([], _) => .error .token
  | (digits, c) => .ok (digits.foldl (fun n d => 10 * n + (d.toNat - 48)) 0, c)

/-- Reads the handle of a tag: a name between exclamation marks, or a single mark. -/
def handle (c : Cursor) : Part :=
  if !c.at? '!' then .error .token
  else if (c.peekAt 1) == some ' ' then .ok ("!", c.step)
  else
    let (chars, after) := c.step.span isNameChar
    if after.at? '!' then .ok ("!" ++ String.ofList chars ++ "!", after.step) else .error .token

/-- Whether a character may stand in the address of a tag. -/
def isAddressChar (c : Char) : Bool := c.isAlphanum || "-;/?:@&=+$,_.!~*'()[]".toList.contains c

/-- Reads bytes that are written with percent signs. -/
def percentBytes : (fuel : Nat) → Cursor → Bytes → Except Error (Bytes × Cursor)
  | 0, c, read => .ok (read, c)
  | fuel + 1, c, read =>
    if !c.at? '%' then .ok (read, c)
    else match hexNumber? 2 c.step with
      | none => .error .token
      | some n => percentBytes fuel (c.step.forward 2) (read ++ [UInt8.ofNat n])

/-- Reads the characters of an address. -/
def addressChars : (fuel : Nat) → Cursor → List Char → Except Error (List Char × Cursor)
  | 0, c, read => .ok (read, c)
  | fuel + 1, c, read => do
    let (run, c) := c.span isAddressChar
    let read := read ++ run
    if !c.at? '%' then return (read, c)
    let (bytes, c) ← percentBytes (c.rest.length + 1) c []
    match Utf8.decode bytes with
    | .error _ => throw .token
    | .ok chars => addressChars fuel c (read ++ chars)

/-- Reads the address of a tag, which is not empty. -/
def address (c : Cursor) : Part := do
  let (chars, after) ← addressChars (c.rest.length + 1) c []
  if chars.isEmpty && after.index = c.index then throw .token
  return (String.ofList chars, after)

/-- Reads the value of a directive on the version. -/
def versionDirective (c : Cursor) : Except Error (Directive × Cursor) := do
  let (major, c) ← number c.skipSpaces
  if !c.at? '.' then throw .token
  let (_, c) ← number c.step
  if !isSpaceOrEnd c.peek then throw .token
  return (.version major, c)

/-- Reads the value of a directive on tags. -/
def tagDirective (c : Cursor) : Except Error (Directive × Cursor) := do
  let (handle, c) ← handle c.skipSpaces
  if !c.at? ' ' then throw .token
  let (written, c) ← address c.skipSpaces
  if !isSpaceOrEnd c.peek then throw .token
  return (.tag handle written, c)

/-- Reads a directive. -/
def readDirective (c : Cursor) : Except Error (Token × Cursor) := do
  let (name, c) ← name c.step
  if !isSpaceOrEnd c.peek then throw .token
  let (d, c) ← match name with
    | "YAML" => versionDirective c
    | "TAG" => tagDirective c
    | _ => pure (.other, c.skip fun ch => !isBreak ch)
  return (directive d, ← c.endLine)

/-- Reads the name of an anchor or an alias. -/
def readLabel (c : Cursor) : Part := do
  let (name, c) ← name c.step
  if !(isBlankOrEnd c.peek || c.peek.any "?:,]\x7d%@\x60".toList.contains) then throw .token
  return (name, c)

/-- Whether an exclamation mark follows before the next space. -/
def hasHandle (c : Cursor) : Bool :=
  (c.step.rest.takeWhile fun ch => !isSpaceOrEnd (some ch)).contains '!'

/-- Reads a tag. -/
def readTag (c : Cursor) : Except Error (Token × Cursor) := do
  let (handle, suffix, c) ←
    if (c.peekAt 1) == some '<' then do
      let (suffix, c) ← address (c.forward 2)
      if !c.at? '>' then throw .token
      pure (none, suffix, c.step)
    else if isBlankOrEnd (c.peekAt 1) then pure (none, "!", c.step)
    else do
      let (handle, c) ← if hasHandle c then handle c else pure ("!", c.step)
      let (suffix, c) ← address c
      pure (some handle, suffix, c)
  if !isSpaceOrEnd c.peek then throw .token
  return (tag handle suffix, c)

end Token

end HttpCourier.Yaml
