import HttpCourier.Yaml.Error

/-!
# Places in a document

A `Cursor` is the text that is left to read and the place where it begins. The predicates below it
are the sets of characters that tokens end at; the end of the text belongs to each of them.
-/

namespace HttpCourier.Yaml

/-- The text that is left to read, with the place where it begins. -/
structure Cursor where
  rest : List Char
  index : Nat := 0
  line : Nat := 0
  column : Nat := 0

/-- Characters that end a line. -/
def isBreak (c : Char) : Bool :=
  c == '\n' || c == '\r' || c == '\x85' || c == '\u2028' || c == '\u2029'

/-- The end of a line or of the text. -/
def isLineEnd (c : Option Char) : Bool := c.all isBreak

/-- A space, or the end of a line. -/
def isSpaceOrEnd (c : Option Char) : Bool := c.all fun c => c == ' ' || isBreak c

/-- A blank, or the end of a line. -/
def isBlankOrEnd (c : Option Char) : Bool := c.all fun c => c == ' ' || c == '\t' || isBreak c

/-- Letters, digits, dashes and underscores. -/
def isNameChar (c : Char) : Bool := c.isAlphanum || c == '-' || c == '_'

namespace Cursor

/-- The next character. -/
def peek (c : Cursor) : Option Char := c.rest.head?

/-- The character after some others. -/
def peekAt (c : Cursor) (n : Nat) : Option Char := c.rest[n]?

/-- Whether the next character is the given one. -/
def at? (c : Cursor) (ch : Char) : Bool := c.peek == some ch

/-- The cursor after the next character. A carriage return ends a line unless a line feed follows,
and a byte order mark takes no column. -/
def step (c : Cursor) : Cursor :=
  match c.rest with
  | [] => c
  | ch :: rest =>
    let c := { c with rest, index := c.index + 1 }
    if isBreak ch && !(ch == '\r' && rest.head? == some '\n') then
      { c with line := c.line + 1, column := 0 }
    else if ch == '\ufeff' then c
    else { c with column := c.column + 1 }

/-- The cursor after some characters. -/
def forward : Nat → Cursor → Cursor
  | 0, c => c
  | n + 1, c => forward n c.step

/-- Takes characters as long as they satisfy a condition. -/
def span (p : Char → Bool) (c : Cursor) : List Char × Cursor :=
  let taken := c.rest.takeWhile p
  (taken, c.forward taken.length)

/-- Skips characters as long as they satisfy a condition. -/
def skip (p : Char → Bool) (c : Cursor) : Cursor := (c.span p).2

/-- Skips spaces. -/
def skipSpaces (c : Cursor) : Cursor := c.skip (· == ' ')

/-- Skips a comment. -/
def skipComment (c : Cursor) : Cursor := if c.at? '#' then c.skip fun ch => !isBreak ch else c

/-- Takes the end of a line, if the cursor is at one. All ends of lines but two read as a line
feed. -/
def lineBreak? (c : Cursor) : Option (Char × Cursor) :=
  match c.rest with
  | '\r' :: '\n' :: _ => some ('\n', c.forward 2)
  | ch :: _ =>
    if ch == '\u2028' || ch == '\u2029' then some (ch, c.step)
    else if isBreak ch then some ('\n', c.step) else none
  | [] => none

/-- The cursor after the end of a line, if it is at one. -/
def skipBreak (c : Cursor) : Cursor := (c.lineBreak?.map Prod.snd).getD c

/-- Whether a mark of three characters stands here, with a blank behind it. -/
def atMark (c : Cursor) (ch : Char) : Bool :=
  c.rest.take 3 == [ch, ch, ch] && isBlankOrEnd (c.peekAt 3)

/-- Whether a mark between documents stands here. -/
def atSeparator (c : Cursor) : Bool := c.atMark '-' || c.atMark '.'

/-- Skips what stands between tokens; `fuel` bounds the lines. The first part of the result says
whether the end of a line was passed. -/
def skipGaps : (fuel : Nat) → Cursor → Bool × Cursor
  | 0, c => (false, c)
  | fuel + 1, c =>
    let c := c.skipSpaces.skipComment
    match c.lineBreak? with
    | none => (false, c)
    | some (_, c) => (true, (skipGaps fuel c).2)

/-- Goes to the next token; a byte order mark may stand in front of the text. -/
def toToken (c : Cursor) : Bool × Cursor :=
  let c := if c.index = 0 && c.at? '\ufeff' then c.step else c
  skipGaps (c.rest.length + 1) c

/-- The end of a line on which nothing but a comment is left. -/
def endLine (c : Cursor) : Except Error Cursor :=
  let c := c.skipSpaces.skipComment
  if isLineEnd c.peek then .ok c.skipBreak else .error .token

end Cursor

end HttpCourier.Yaml
