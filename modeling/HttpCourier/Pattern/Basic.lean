import HttpCourier.Text.Quoted

/-!
# Patterns

A pattern is a regular expression with groups, references to them, assertions and three kinds of
repetition. This module has its syntax tree (`Pattern.Node`), the switches that change what a part
matches (`Pattern.Flags`), the width of what a part matches, and what makes a text no pattern.
-/

namespace HttpCourier.Pattern

/-- Switches that change what a pattern matches. -/
structure Flags where
  ignoreCase : Bool := false
  locale : Bool := false
  multiline : Bool := false
  dotAll : Bool := false
  verbose : Bool := false
  ascii : Bool := false
  template : Bool := false
  unicode : Bool := false
  deriving DecidableEq, Repr

namespace Flags

/-- Combines switches one by one. -/
def zip (f : Bool → Bool → Bool) (a b : Flags) : Flags :=
  { ignoreCase := f a.ignoreCase b.ignoreCase, locale := f a.locale b.locale,
    multiline := f a.multiline b.multiline, dotAll := f a.dotAll b.dotAll,
    verbose := f a.verbose b.verbose, ascii := f a.ascii b.ascii,
    template := f a.template b.template, unicode := f a.unicode b.unicode }

/-- The switches that are on in either. -/
def union (a b : Flags) : Flags := zip (· || ·) a b

/-- The switches that are on in the first only. -/
def minus (a b : Flags) : Flags := zip (fun x y => x && !y) a b

/-- The switches that are on in both. -/
def inter (a b : Flags) : Flags := zip (· && ·) a b

/-- Whether no switch is on. -/
def isEmpty (f : Flags) : Bool := f == {}

/-- The switches that choose a repertoire of characters. -/
def repertoires : Flags := { locale := true, ascii := true, unicode := true }

/-- The switch of a letter. -/
def ofLetter? (letter : List Char) : Option Flags :=
  match letter with
  | ['i'] => some { ignoreCase := true }
  | ['L'] => some { locale := true }
  | ['m'] => some { multiline := true }
  | ['s'] => some { dotAll := true }
  | ['x'] => some { verbose := true }
  | ['a'] => some { ascii := true }
  | ['t'] => some { template := true }
  | ['u'] => some { unicode := true }
  | _ => none

/-- The switches inside a group that turns some on and others off. -/
def within (flags on off : Flags) : Flags :=
  let base := if (on.inter repertoires).isEmpty then flags else flags.minus repertoires
  (base.union on).minus off

end Flags

/-- A class of characters. -/
inductive Category where
  | digit
  | space
  | word
  deriving DecidableEq, Repr

/-- One member of a set of characters; characters are given by code point. -/
inductive SetItem where
  | code (n : Nat)
  | range (first last : Nat)
  | category (c : Category) (negated : Bool)
  deriving DecidableEq, Repr

/-- A place in the text. -/
inductive Anchor where
  | start
  | finish
  | textStart
  | textEnd
  | boundary
  | noBoundary
  deriving DecidableEq, Repr

/-- How a repetition chooses the number of its rounds. -/
inductive Mode where
  | greedy
  | lazy
  | possessive
  deriving DecidableEq, Repr

/-- A part of a pattern. -/
inductive Node where
  | empty
  | fail
  | code (n : Nat)
  | any
  | set (negated : Bool) (items : List SetItem)
  | anchor (a : Anchor)
  | seq (first second : Node)
  | alt (first second : Node)
  | group (index : Option Nat) (on off : Flags) (body : Node)
  | atomic (body : Node)
  | rounds (mode : Mode) (least most : Nat) (body : Node)
  | reference (index : Nat)
  | whenGroup (index : Nat) (yes : Node) (no : Option Node)
  | look (ahead negated : Bool) (body : Node)

/-- The number of rounds that stands for no bound. -/
def unbounded : Nat := 4294967295

/-- The least and greatest width, in characters, of what a part matches; `widths` has those of the
groups. -/
def Node.width (widths : List (Option (Nat × Nat))) : Node → Nat × Nat
  | empty | fail | anchor _ | look _ _ _ => (0, 0)
  | code _ | any | set _ _ => (1, 1)
  | seq a b =>
    let (l₁, h₁) := a.width widths
    let (l₂, h₂) := b.width widths
    (min (l₁ + l₂) (unbounded - 1), min (h₁ + h₂) unbounded)
  | alt a b =>
    let (l₁, h₁) := a.width widths
    let (l₂, h₂) := b.width widths
    (min l₁ l₂, max h₁ h₂)
  | group _ _ _ body | atomic body => body.width widths
  | rounds _ least most body =>
    let (l, h) := body.width widths
    (min (l * least) (unbounded - 1), min (h * most) unbounded)
  | reference n => ((widths[n]?).bind id).getD (0, 0)
  | whenGroup _ yes none => (0, (yes.width widths).2)
  | whenGroup _ yes (some no) =>
    let (l₁, h₁) := yes.width widths
    let (l₂, h₂) := no.width widths
    (min l₁ l₂, max h₁ h₂)

/-- Whether every part that looks back has a fixed width. -/
def Node.looksBackFixed (widths : List (Option (Nat × Nat))) : Node → Bool
  | seq a b | alt a b => a.looksBackFixed widths && b.looksBackFixed widths
  | group _ _ _ body | atomic body | rounds _ _ _ body => body.looksBackFixed widths
  | whenGroup _ yes none => yes.looksBackFixed widths
  | whenGroup _ yes (some no) => yes.looksBackFixed widths && no.looksBackFixed widths
  | look ahead _ body =>
    (ahead || (body.width widths).1 == (body.width widths).2) && body.looksBackFixed widths
  | _ => true

/-- What makes a text no pattern. -/
inductive Cause where
  | escapeAtEnd
  | missing (what : String)
  | unterminatedName (terminator : Char)
  | badName (name : String)
  | incompleteEscape (escape : String)
  | badEscape (escape : String)
  | octalTooLarge (escape : String)
  | unknownCharacter (name : String)
  | openGroup
  | sameLookbehind
  | badReference (n : Nat)
  | openSet
  | badRange (first last : String)
  | leastAboveMost
  | nothingToRepeat
  | multipleRepeat
  | unexpectedEnd
  | unknownName (name : String)
  | unknownExtension (text : String)
  | openComment
  | openSubpattern
  | groupNumber
  | manyBranches
  | lateFlags
  | redefinition (name : String) (index former : Nat)
  | tooManyGroups
  | byteFlag
  | clashingFlags
  | unknownFlag
  | globalFlagOn
  | globalFlagOff
  | repertoireOff
  | flagOnAndOff
  | unbalanced
  | variableLookbehind
  /-- The number of rounds is too large; this is not about the writing. -/
  | tooManyRounds
  /-- Two repertoires are chosen at once; this is not about the writing. -/
  | twoRepertoires
  deriving DecidableEq, Repr

/-- The words for what makes a text no pattern. -/
def Cause.message : Cause → String
  | .escapeAtEnd => "bad escape (end of pattern)"
  | .missing what => "missing " ++ what
  | .unterminatedName c => "missing " ++ c.toString ++ ", unterminated name"
  | .badName name => "bad character in group name " ++ Text.quoted name
  | .incompleteEscape e => "incomplete escape " ++ e
  | .badEscape e => "bad escape " ++ e
  | .octalTooLarge e => "octal escape value " ++ e ++ " outside of range 0-0o377"
  | .unknownCharacter name => "undefined character name " ++ Text.quoted name
  | .openGroup => "cannot refer to an open group"
  | .sameLookbehind => "cannot refer to group defined in the same lookbehind subpattern"
  | .badReference n => "invalid group reference " ++ toString n
  | .openSet => "unterminated character set"
  | .badRange a b => "bad character range " ++ a ++ "-" ++ b
  | .leastAboveMost => "min repeat greater than max repeat"
  | .nothingToRepeat => "nothing to repeat"
  | .multipleRepeat => "multiple repeat"
  | .unexpectedEnd => "unexpected end of pattern"
  | .unknownName name => "unknown group name " ++ Text.quoted name
  | .unknownExtension text => "unknown extension " ++ text
  | .openComment => "missing ), unterminated comment"
  | .openSubpattern => "missing ), unterminated subpattern"
  | .groupNumber => "bad group number"
  | .manyBranches => "conditional backref with more than two branches"
  | .lateFlags => "global flags not at the start of the expression"
  | .redefinition name index former =>
    "redefinition of group name " ++ Text.quoted name ++ " as group " ++ toString index
      ++ "; was group " ++ toString former
  | .tooManyGroups => "too many groups"
  | .byteFlag => "bad inline flags: cannot use 'L' flag with a str pattern"
  | .clashingFlags => "bad inline flags: flags 'a', 'u' and 'L' are incompatible"
  | .unknownFlag => "unknown flag"
  | .globalFlagOn => "bad inline flags: cannot turn on global flag"
  | .globalFlagOff => "bad inline flags: cannot turn off global flag"
  | .repertoireOff => "bad inline flags: cannot turn off flags 'a', 'u' and 'L'"
  | .flagOnAndOff => "bad inline flags: flag turned on and off"
  | .unbalanced => "unbalanced parenthesis"
  | .variableLookbehind => "look-behind requires fixed-width pattern"
  | .tooManyRounds => "the repetition number is too large"
  | .twoRepertoires => "ASCII and UNICODE flags are incompatible"

/-- An error in a pattern, at a position unless it concerns the whole. -/
structure Error where
  cause : Cause
  position : Option Nat := none
  deriving DecidableEq, Repr

/-- The words for an error in the pattern `text`. In a pattern of several lines, line and column are
told too. -/
def Error.message (e : Error) (text : String) : String :=
  match e.position with
  | none => e.cause.message
  | some p =>
    let before := text.toList.take p
    let line := before.count '\n' + 1
    let column := (before.reverse.takeWhile (· != '\n')).length + 1
    e.cause.message ++ " at position " ++ toString p
      ++ if text.toList.contains '\n' then
          " (line " ++ toString line ++ ", column " ++ toString column ++ ")"
        else ""

/-- The name of the kind of an error. -/
def Error.label (e : Error) : String :=
  match e.cause with
  | .tooManyRounds => "OverflowError"
  | .twoRepertoires => "ValueError"
  | _ => "error"

end HttpCourier.Pattern
