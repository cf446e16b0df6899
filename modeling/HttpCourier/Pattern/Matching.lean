import HttpCourier.Pattern.Basic
import HttpCourier.Text.Blank
import HttpCourier.Text.Case
import HttpCourier.Text.Digit
import HttpCourier.Text.Word

/-!
# Matching patterns

`Node.run` tries the ways in which a part matches at a place of the text, in order of preference,
and hands each to a continuation until one of them accepts. `Node.matchesWhole` asks for a way that
ends at the end of the text.
-/

namespace HttpCourier.Pattern

open Text

/-- The place that was reached: the characters before it, nearest first, those after it, its
position, and the text of each group that took part. -/
structure Place where
  before : List Char
  after : List Char
  groups : List (Nat × List Char) := []

namespace Place

/-- How many characters stand before a place. -/
def position (p : Place) : Nat := p.before.length

/-- The place after the next character. -/
def step? (p : Place) : Option (Char × Place) :=
  match p.after with
  | [] => none
  | c :: rest => some (c, { p with before := c :: p.before, after := rest })

/-- The place `n` characters back. -/
def back? (p : Place) (n : Nat) : Option Place :=
  if n ≤ p.before.length then
    some { p with before := p.before.drop n, after := (p.before.take n).reverse ++ p.after }
  else none

/-- Sets the text of a group, which starts at `start`. -/
def close (p : Place) (start : Nat) (index : Nat) : Place :=
  { p with
    groups := (index, (p.before.take (p.position - start)).reverse)
      :: p.groups.filter fun g => g.1 != index }

end Place

/-- Letters, in small form, that are the same when case is ignored. -/
def caseTwins : List (List Nat) :=
  [[0x69, 0x131], [0x73, 0x17F], [0xB5, 0x3BC], [0x345, 0x3B9, 0x1FBE], [0x390, 0x1FD3],
    [0x3B0, 0x1FE3], [0x3B2, 0x3D0], [0x3B5, 0x3F5], [0x3B8, 0x3D1], [0x3BA, 0x3F0],
    [0x3C0, 0x3D6], [0x3C1, 0x3F1], [0x3C2, 0x3C3], [0x3C6, 0x3D5], [0x432, 0x1C80],
    [0x434, 0x1C81], [0x43E, 0x1C82], [0x441, 0x1C83], [0x442, 0x1C84, 0x1C85], [0x44A, 0x1C86],
    [0x463, 0x1C87], [0x1C88, 0xA64B], [0x1E61, 0x1E9B], [0xFB05, 0xFB06]]

/-- The small form of a code point when case is ignored. -/
def fold (flags : Flags) (n : Nat) : Nat :=
  if flags.ascii then (if 65 ≤ n ∧ n ≤ 90 then n + 32 else n)
  else if n = 0x130 then 0x69
  else if n.isValidChar then (lowerChar (Char.ofNat n)).toNat else n

/-- The small forms that count as the given one when case is ignored. -/
def twinsOf (flags : Flags) (n : Nat) : List Nat :=
  if flags.ascii then [n] else (caseTwins.find? (·.contains n)).getD [n]

/-- Whether two code points are the same under the switches. -/
def sameCode (flags : Flags) (a b : Nat) : Bool :=
  a == b || (flags.ignoreCase && (twinsOf flags (fold flags a)).contains (fold flags b))

/-- Whether a character is in a class. -/
def inCategory (flags : Flags) (c : Char) : Category → Bool
  | .digit => if flags.ascii then isAsciiDigit c else isDecimal c
  | .space =>
    if flags.ascii then decide (c.toNat < 128) && (c == ' ' || decide (9 ≤ c.toNat ∧ c.toNat ≤ 13))
    else isBlank c
  | .word => if flags.ascii then decide (c.toNat < 128) && isWord c else isWord c

/-- Whether a character is a member of an item. -/
def SetItem.has (flags : Flags) (c : Char) : SetItem → Bool
  | code n => sameCode flags n c.toNat
  | range first last =>
    let inside (n : Nat) := decide (first ≤ n ∧ n ≤ last)
    inside c.toNat
      || (flags.ignoreCase && (inside (fold flags c.toNat)
        || (List.range (last + 1 - first)).any fun k => sameCode flags (first + k) c.toNat))
  | category k negated => inCategory flags c k != negated

/-- Whether a place is between a character of a word and one that is not, or an end of the text. -/
def atBoundary (flags : Flags) (p : Place) : Bool :=
  let isIn (s : List Char) := match s with
    | [] => false
    | c :: _ => inCategory flags c .word
  isIn p.before != isIn p.after

/-- Whether a place is where an anchor asks for. -/
def Anchor.holds (flags : Flags) (p : Place) : Anchor → Bool
  | start => p.before.isEmpty || (flags.multiline && p.before.head? == some '\n')
  | finish =>
    p.after.isEmpty || p.after == ['\n'] || (flags.multiline && p.after.head? == some '\n')
  | textStart => p.before.isEmpty
  | textEnd => p.after.isEmpty
  | boundary => !(p.before.isEmpty && p.after.isEmpty) && atBoundary flags p
  | noBoundary => !(p.before.isEmpty && p.after.isEmpty) && !atBoundary flags p

/-- What a part does at a place: it hands the places it can reach to a continuation, the preferred
ones first, until the continuation accepts. -/
abbrev Run := Place → (Place → Option Place) → Option Place

/-- Rounds of `body`: as many as possible, or as few. A round that starts where the one before it
did is the last; rounds below the least number are always tried. -/
def runRounds (body : Run) (isLazy : Bool) (least most : Nat) :
    (fuel count : Nat) → (last : Option Nat) → Run
  | 0, _, _ => fun p accept => accept p
  | fuel + 1, count, last => fun p accept =>
    let more (start : Option Nat) (_ : Unit) :=
      body p fun q => runRounds body isLazy least most fuel (count + 1) start q accept
    if count < least then more last ()
    else
      let again := (decide (count < most) || most == unbounded) && last != some p.position
      if isLazy then
        (accept p).orElse fun _ => if again then more (some p.position) () else none
      else if again then (more (some p.position) ()).orElse fun _ => accept p
      else accept p

/-- Rounds of `body` that are never given back. -/
def runPossessive (body : Run) (least most : Nat) :
    (fuel count : Nat) → (last : Option Nat) → Place → Option Place
  | 0, _, _, p => some p
  | fuel + 1, count, last, p =>
    if count < least then
      (body p some).bind (runPossessive body least most fuel (count + 1) last)
    else if (count < most ∨ most = unbounded) ∧ last ≠ some p.position then
      match body p some with
      | some q => runPossessive body least most fuel (count + 1) (some p.position) q
      | none => some p
    else some p

/-- Whether the text after a place starts with the text of a group; gives the place after it. -/
def runReference (flags : Flags) : List Char → Place → Option Place
  | [], p => some p
  | c :: rest, p =>
    match p.step? with
    | some (d, q) => if sameCode flags c.toNat d.toNat then runReference flags rest q else none
    | none => none

/-- One character that satisfies a test. -/
def runChar (accepts : Char → Bool) : Run := fun p accept =>
  match p.step? with
  | some (c, q) => if accepts c then accept q else none
  | none => none

/-- Runs a part. -/
def Node.run (widths : List (Option (Nat × Nat))) (flags : Flags) : Node → Run
  | empty => fun p accept => accept p
  | fail => fun _ _ => none
  | code n => runChar fun c => sameCode flags n c.toNat
  | any => runChar fun c => flags.dotAll || c != '\n'
  | set negated items => runChar fun c => items.any (·.has flags c) != negated
  | anchor a => fun p accept => if a.holds flags p then accept p else none
  | seq a b => fun p accept => a.run widths flags p fun q => b.run widths flags q accept
  | alt a b => fun p accept =>
    (a.run widths flags p accept).orElse fun _ => b.run widths flags p accept
  | group index on off body => fun p accept =>
    body.run widths (flags.within on off) p fun q =>
      accept (match index with
        | some n => q.close p.position n
        | none => q)
  | atomic body => fun p accept => (body.run widths flags p some).bind accept
  | rounds mode least most body => fun p accept =>
    let fuel := least + p.after.length + 2
    let once : Run := fun q k => body.run widths flags q k
    match mode with
    | .possessive => (runPossessive once least most fuel 0 none p).bind accept
    | mode => runRounds once (mode == .lazy) least most fuel 0 none p accept
  | reference n => fun p accept =>
    match p.groups.lookup n with
    | some text => (runReference flags text p).bind accept
    | none => none
  | whenGroup n yes none => fun p accept =>
    if (p.groups.lookup n).isSome then yes.run widths flags p accept else accept p
  | whenGroup n yes (some no) => fun p accept =>
    if (p.groups.lookup n).isSome then yes.run widths flags p accept
    else no.run widths flags p accept
  | look ahead negated body => fun p accept =>
    let start := if ahead then some p else p.back? (body.width widths).1
    let found := start.bind fun q => body.run widths flags q some
    match found, negated with
    | some q, false => accept { p with groups := q.groups }
    | none, true => accept p
    | _, _ => none

end HttpCourier.Pattern

namespace HttpCourier

/-- A pattern that was read: its parts, its switches, and the widths of its groups. -/
structure Pattern where
  node : Pattern.Node
  flags : Pattern.Flags
  widths : List (Option (Nat × Nat))

/-- Whether a pattern matches the whole of a text. -/
def Pattern.matchesWhole (p : Pattern) (text : String) : Bool :=
  (p.node.run p.widths p.flags { before := [], after := text.toList } fun q =>
    if q.after.isEmpty then some q else none).isSome

end HttpCourier
