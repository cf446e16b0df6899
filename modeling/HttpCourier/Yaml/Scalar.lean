import HttpCourier.Bytes.Basic
import HttpCourier.Text.Loose
import HttpCourier.Yaml.Cursor

/-!
# The text of scalars

Scalars are written in five styles: plain, between single or double quotes, and as blocks whose
lines are kept or folded. Each function reads the text of one style from a cursor. Only between
double quotes can a scalar have code points that are no characters: the numbers behind a backslash
may be those of surrogates, and those of a pair are not put together.
-/

namespace HttpCourier.Yaml

/-- What comes of reading a scalar: its text and the cursor behind it. -/
abbrev ScalarResult := Except Error (List Char × Cursor)

/-- The number that some hexadecimal digits write. -/
def hexNumber? (count : Nat) (c : Cursor) : Option Nat :=
  let digits := c.rest.take count
  if digits.length < count then none
  else (digits.mapM Bytes.hexValue?).map fun ds => ds.foldl (fun n d => 16 * n + d) 0

namespace Plain

/-- Whether a plain scalar may begin here. -/
def begins (inFlow : Bool) (c : Cursor) : Bool :=
  match c.peek with
  | none => false
  | some ch =>
    !(isBlankOrEnd (some ch) || "-?:,[]\x7b\x7d#&*!|>'\"%@\x60".toList.contains ch)
      || (!isBlankOrEnd (c.peekAt 1) && (ch == '-' || (!inFlow && (ch == '?' || ch == ':'))))

/-- Whether a plain scalar ends before a character with another one behind it. -/
def ends (inFlow : Bool) (ch : Char) (next : Option Char) : Bool :=
  isBlankOrEnd (some ch)
    || (ch == ':' && (isBlankOrEnd next || (inFlow && next.any ",[]\x7b\x7d".toList.contains)))
    || (inFlow && ",?[]\x7b\x7d".toList.contains ch)

/-- The length of the run of characters that belong to a plain scalar. -/
def runLength (inFlow : Bool) : List Char → Nat
  | [] => 0
  | ch :: rest => if ends inFlow ch rest.head? then 0 else runLength inFlow rest + 1

/-- The ends of lines after the first one, up to a mark between documents; `none` at such a mark. -/
def moreBreaks : (fuel : Nat) → Cursor → List Char → Option (List Char) × Cursor
  | 0, c, breaks => (some breaks, c)
  | fuel + 1, c, breaks =>
    let c := c.skipSpaces
    match c.lineBreak? with
    | none => (some breaks, c)
    | some (ch, c) =>
      if c.atSeparator then (none, c) else moreBreaks fuel c (breaks ++ [ch])

/-- The text for the end of a line and those after it: a single line feed reads as a space. -/
def folded (first : Char) (breaks : List Char) : List Char :=
  (if first ≠ '\n' then [first] else if breaks.isEmpty then [' '] else []) ++ breaks

/-- Reads the space after a run: its text, which is empty when the scalar ends, and whether the end
of a line was passed. -/
def spaces (c : Cursor) : List Char × Bool × Cursor :=
  let (blanks, c) := c.span (· == ' ')
  match c.lineBreak? with
  | none => (blanks, false, c)
  | some (first, c) =>
    if c.atSeparator then ([], true, c)
    else match moreBreaks (c.rest.length + 1) c [] with
      | (none, c) => ([], true, c)
      | (some breaks, c) => (folded first breaks, true, c)

/-- Reads the runs of a plain scalar; `gap` is the space before the next one. -/
def runs (inFlow : Bool) (indent : Int) : (fuel : Nat) → (gap text : List Char) → (broke : Bool) →
    Cursor → List Char × Bool × Cursor
  | 0, _, text, broke, c => (text, broke, c)
  | fuel + 1, gap, text, broke, c =>
    let n := if c.at? '#' then 0 else runLength inFlow c.rest
    if n = 0 then (text, broke, c)
    else
      let text := text ++ gap ++ c.rest.take n
      let (gap, broke, c) := spaces (c.forward n)
      if gap.isEmpty || c.at? '#' || (!inFlow && decide ((c.column : Int) < indent)) then
        (text, broke, c)
      else runs inFlow indent fuel gap text broke c

/-- Reads a plain scalar: its text, and whether the end of a line was passed behind it. -/
def read (inFlow : Bool) (indent : Int) (c : Cursor) : List Char × Bool × Cursor :=
  runs inFlow indent (c.rest.length + 1) [] [] false c

end Plain

namespace Quoted

/-- The characters that a letter behind a backslash stands for. -/
def escapes : List (Char × Char) :=
  [('0', '\x00'), ('a', '\x07'), ('b', '\x08'), ('t', '\t'), ('\t', '\t'), ('n', '\n'), ('v', '\x0b'),
    ('f', '\x0c'), ('r', '\r'), ('e', '\x1b'), (' ', ' '), ('"', '"'), ('\\', '\\'), ('/', '/'),
    ('N', '\x85'), ('_', '\xa0'), ('L', '\u2028'), ('P', '\u2029')]

/-- How many digits follow a letter behind a backslash. -/
def escapeLengths : List (Char × Nat) := [('x', 2), ('u', 4), ('U', 8)]

/-- What comes of reading a part between quotes: its code points and the cursor behind it. -/
abbrev PointsResult := Except Error (List CodePoint × Cursor)

/-- The code point with a number. -/
def codePoint (number : Nat) : Except Error CodePoint :=
  if 0x80000000 ≤ number then .error (.unsound "OverflowError" "Python int too large to convert to C int")
  else match CodePoint.ofNat? number with
    | some p => .ok p
    | none => .error (.unsound "ValueError" "chr() arg not in range(0x110000)")

/-- The ends of lines inside quotes. -/
def breaks : (fuel : Nat) → Cursor → List Char → ScalarResult
  | 0, c, read => .ok (read, c)
  | fuel + 1, c, read =>
    if c.atSeparator then .error .token
    else
      let c := c.skip fun ch => ch == ' ' || ch == '\t'
      match c.lineBreak? with
      | none => .ok (read, c)
      | some (ch, c) => breaks fuel c (read ++ [ch])

/-- Reads what stands behind a backslash. -/
def escape (c : Cursor) : PointsResult :=
  match c.peek with
  | none => .error .token
  | some ch =>
    match escapes.lookup ch, escapeLengths.lookup ch with
    | some meant, _ => .ok ([.char meant], c.step)
    | none, some count =>
      let c := c.step
      match hexNumber? count c with
      | none => .error .token
      | some number => (codePoint number).map fun p => ([p], c.forward count)
    | none, none =>
      match c.lineBreak? with
      | none => .error .token
      | some (_, c) => (breaks (c.rest.length + 1) c []).map fun (read, c) => (read.map .char, c)

/-- Whether a character ends a run inside quotes. -/
def endsRun (ch : Char) : Bool := ch == '\'' || ch == '"' || ch == '\\' || isBlankOrEnd (some ch)

/-- Reads characters other than blanks inside quotes. -/
def solid (double : Bool) : (fuel : Nat) → Cursor → List CodePoint → PointsResult
  | 0, c, text => .ok (text, c)
  | fuel + 1, c, text =>
    let (run, c) := c.span fun ch => !endsRun ch
    let text := text ++ run.map .char
    match c.peek with
    | some '\'' =>
      if double then solid double fuel c.step (text ++ [.char '\''])
      else if c.peekAt 1 == some '\'' then solid double fuel (c.forward 2) (text ++ [.char '\''])
      else .ok (text, c)
    | some '"' => if double then .ok (text, c) else solid double fuel c.step (text ++ [.char '"'])
    | some '\\' =>
      if double then
        match escape c.step with
        | .error e => .error e
        | .ok (meant, c) => solid double fuel c (text ++ meant)
      else solid double fuel c.step (text ++ [.char '\\'])
    | _ => .ok (text, c)

/-- Reads blanks and ends of lines inside quotes. -/
def gap (c : Cursor) : ScalarResult :=
  let (blanks, c) := c.span fun ch => ch == ' ' || ch == '\t'
  match c.lineBreak? with
  | some (first, c) => (breaks (c.rest.length + 1) c []).map fun (more, c) => (Plain.folded first more, c)
  | none => if c.peek.isNone then .error .token else .ok (blanks, c)

/-- Reads on to the closing quote. -/
def readOn (double : Bool) : (fuel : Nat) → Cursor → List CodePoint → PointsResult
  | 0, _, _ => .error .token
  | fuel + 1, c, text =>
    if c.at? (if double then '"' else '\'') then .ok (text, c.step)
    else do
      let (blanks, c) ← gap c
      let (run, c) ← solid double (c.rest.length + 1) c []
      readOn double fuel c (text ++ blanks.map .char ++ run)

/-- Reads a scalar between quotes. -/
def read (double : Bool) (c : Cursor) : PointsResult := do
  let c := c.step
  let (run, c) ← solid double (c.rest.length + 1) c []
  readOn double (c.rest.length + 2) c run

end Quoted

namespace Block

/-- What becomes of the ends of lines at the end of a block. -/
inductive Chomp where
  | strip
  | clip
  | keep
  deriving DecidableEq

/-- Reads the sign that says what becomes of the last ends of lines. -/
def chomp (c : Cursor) : Option (Chomp × Cursor) :=
  match c.peek with
  | some '+' => some (.keep, c.step)
  | some '-' => some (.strip, c.step)
  | _ => none

/-- Reads the digit that says how far a block is indented. -/
def increment (c : Cursor) : Except Error (Option (Nat × Cursor)) :=
  match c.peek with
  | some ch =>
    if ch == '0' then .error .token
    else if ch.isDigit then .ok (some (ch.toNat - 48, c.step)) else .ok none
  | none => .ok none

/-- Reads the signs in front of a block. -/
def signs (c : Cursor) : Except Error (Chomp × Option Nat × Cursor) := do
  match chomp c with
  | some (chomp, c) =>
    match ← increment c with
    | some (n, c) => return (chomp, some n, c)
    | none => return (chomp, none, c)
  | none =>
    match ← increment c with
    | some (n, c) =>
      match chomp c with
      | some (chomp, c) => return (chomp, some n, c)
      | none => return (.clip, some n, c)
    | none => return (.clip, none, c)

/-- Reads the empty lines in front of a block, and finds how far it is indented. -/
def indentation : (fuel : Nat) → Cursor → (breaks : List Char) → (widest : Nat) →
    List Char × Nat × Cursor
  | 0, c, breaks, widest => (breaks, widest, c)
  | fuel + 1, c, breaks, widest =>
    match c.lineBreak? with
    | some (ch, c) => indentation fuel c (breaks ++ [ch]) widest
    | none =>
      if c.at? ' ' then indentation fuel c.step breaks (max widest c.step.column)
      else (breaks, widest, c)

/-- Skips spaces up to a column. -/
def skipIndent (indent : Nat) : (fuel : Nat) → Cursor → Cursor
  | 0, c => c
  | fuel + 1, c => if c.column < indent && c.at? ' ' then skipIndent indent fuel c.step else c

/-- Reads the empty lines inside a block. -/
def breaks (indent : Nat) : (fuel : Nat) → Cursor → List Char → List Char × Cursor
  | 0, c, read => (read, c)
  | fuel + 1, c, read =>
    let c := skipIndent indent (indent + 1) c
    match c.lineBreak? with
    | none => (read, c)
    | some (ch, c) => breaks indent fuel c (read ++ [ch])

/-- Whether a line of the block begins here. -/
def inside (indent : Nat) (c : Cursor) : Bool := c.column == indent && c.peek.isSome

/-- Whether the next character is a blank. -/
def atBlank (c : Cursor) : Bool := c.at? ' ' || c.at? '\t'

/-- Reads the lines of a block; the last end of a line and the empty lines behind it are returned by
themselves. -/
def lines (fold : Bool) (indent : Nat) : (fuel : Nat) → (text before : List Char) → Cursor →
    List Char × List Char × List Char × Cursor
  | 0, text, before, c => (text, [], before, c)
  | fuel + 1, text, before, c =>
    if !inside indent c then (text, [], before, c)
    else
      let solid := !atBlank c
      let (run, c) := c.span fun ch => !isBreak ch
      let (last, c) : List Char × Cursor := match c.lineBreak? with
        | some (ch, c) => ([ch], c)
        | none => ([], c)
      let text := text ++ before ++ run
      let (empty, c) := breaks indent (c.rest.length + 1) c []
      if !inside indent c then (text, last, empty, c)
      else if fold && last == ['\n'] && solid && !atBlank c then
        lines fold indent fuel (if empty.isEmpty then text ++ [' '] else text) empty c
      else lines fold indent fuel (text ++ last) empty c

/-- Reads a block; `parent` is the indentation around it. -/
def read (fold : Bool) (parent : Int) (c : Cursor) : ScalarResult := do
  let (chomp, increment, c) ← signs c.step
  if !isSpaceOrEnd c.peek then throw .token
  let c ← c.endLine
  let least := (max (parent + 1) 1).toNat
  let fuel := c.rest.length + 1
  let (before, indent, c) := match increment with
    | some n =>
      let indent := least + n - 1
      let (before, c) := breaks indent fuel c []
      (before, indent, c)
    | none =>
      let (before, widest, c) := indentation fuel c [] 0
      (before, max least widest, c)
  let (text, last, empty, c) := lines fold indent fuel [] before c
  return (match chomp with
    | .strip => text
    | .clip => text ++ last
    | .keep => text ++ last ++ empty, c)

end Block

end HttpCourier.Yaml
