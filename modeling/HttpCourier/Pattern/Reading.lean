import HttpCourier.Number.Parse
import HttpCourier.Pattern.Matching

/-!
# Reading patterns

`Pattern.read` reads the text of a pattern from left to right, one token at a time: a token is a
character, or a backslash with the character after it. What is wrong is reported with the position
where it was noticed.
-/

namespace HttpCourier.Pattern

open Text

/-- A character or an escape, with its position. -/
structure Token where
  position : Nat
  chars : List Char

/-- Splits a text into tokens. A backslash at the end is a token of its own. -/
def tokens : Nat → List Char → List Token
  | _, [] => []
  | n, '\\' :: c :: rest => ⟨n, ['\\', c]⟩ :: tokens (n + 2) rest
  | n, c :: rest => ⟨n, [c]⟩ :: tokens (n + 1) rest

/-- Where the reader stands: the tokens ahead, the length of the text, the switches for the whole
pattern, the widths of the groups that are closed, the groups that have names, the number of groups
before the part that looks back, and where groups were asked for that may come later. -/
structure Reader where
  ahead : List Token
  length : Nat
  flags : Flags := {}
  widths : List (Option (Nat × Nat)) := [none]
  names : List (String × Nat) := []
  lookbehind : Option Nat := none
  asked : List (Nat × Nat) := []

/-- The reader inside a part that looks back. -/
def Reader.lookBack (r : Reader) : Reader := { r with lookbehind := some r.widths.length }

/-- A step of the reader. -/
abbrev Read := StateT Reader (Except Error)

namespace Read

/-- The position of the next token. -/
def tell : Read Nat := do
  let r ← get
  return match r.ahead with
    | [] => r.length
    | t :: _ => t.position

/-- Fails at a position that lies `offset` characters before the next token. -/
def failAt {α : Type} (cause : Cause) (offset : Nat := 0) : Read α := do
  throw { cause, position := some ((← tell) - offset) }

/-- The next token. -/
def peek : Read (Option (List Char)) := do
  return (← get).ahead.head?.map Token.chars

/-- Fails when the next token is a backslash at the end of the text. -/
def checkAhead : Read Unit := do
  match (← get).ahead with
  | t :: _ =>
    if t.chars = ['\\'] then throw { cause := .escapeAtEnd, position := some t.position }
  | [] => return ()

/-- Passes over the next token. -/
def skip : Read Unit := do
  modify fun r => { r with ahead := r.ahead.tail }
  checkAhead

/-- Takes the next token. -/
def next : Read (Option (List Char)) := do
  let t ← peek
  if t.isSome then skip
  return t

/-- Passes over the next token if it is the given character; tells whether it is. -/
def accept (c : Char) : Read Bool := do
  if (← peek) = some [c] then
    skip
    return true
  else return false

/-- Takes at most `n` characters of a kind. -/
def takeChars (isKind : Char → Bool) : Nat → Read (List Char)
  | 0 => return []
  | n + 1 => do
    match ← peek with
    | some [c] =>
      if isKind c then
        skip
        return c :: (← takeChars isKind n)
      else return []
    | _ => return []

/-- Takes the characters up to a terminator, which is passed over; there has to be one at least. -/
def takeUntil (terminator : Char) (what : String) : (fuel : Nat) → (taken : List Char) → Read (List Char)
  | 0, taken => return taken
  | fuel + 1, taken => do
    let c ← next
    match c with
    | none =>
      if taken.isEmpty then failAt (.missing what)
      else failAt (.unterminatedName terminator) taken.length
    | some t =>
      if t = [terminator] then
        if taken.isEmpty then failAt (.missing what) 1 else return taken
      else takeUntil terminator what fuel (taken ++ t)

/-- Takes a name up to a terminator. -/
def takeName (terminator : Char) (what : String) : Read (List Char) := do
  takeUntil terminator what ((← get).ahead.length + 1) []

end Read

open Read

/-- Whether a text may be the name of a group. -/
def isGroupName : List Char → Bool
  | [] => false
  | c :: rest => (isWord c && !isDecimal c) && rest.all isWord

/-- Fails unless a text may be the name of a group. -/
def checkGroupName (name : List Char) : Read Unit := do
  if !isGroupName name then failAt (.badName (String.ofList name)) (name.length + 1)

/-- Whether a group is closed. -/
def isClosed (r : Reader) (n : Nat) : Bool := ((r.widths[n]?).bind id).isSome

/-- Fails when a part that looks back refers to a group that is open or inside it. -/
def checkLookbehind (n : Nat) : Read Unit := do
  let r ← get
  match r.lookbehind with
  | none => return ()
  | some limit =>
    if !isClosed r n then failAt .openGroup
    else if limit ≤ n then failAt .sameLookbehind

/-- Whether a character is an octal digit. -/
def isOctal (c : Char) : Bool := decide ('0' ≤ c ∧ c ≤ '7')

/-- Whether a character is a hexadecimal digit. -/
def isHex (c : Char) : Bool := isAsciiDigit c || decide ('a' ≤ c.toLower ∧ c.toLower ≤ 'f')

/-- The value of octal digits. -/
def octalValue (digits : List Char) : Nat := digits.foldl (fun n c => 8 * n + (c.toNat - 48)) 0

/-- The value of decimal digits. -/
def decimalValue (digits : List Char) : Nat := digits.foldl (fun n c => 10 * n + (c.toNat - 48)) 0

/-- The character of an escape that stands for one. -/
def plainEscape? (c : Char) : Option Nat :=
  [('a', 7), ('b', 8), ('f', 12), ('n', 10), ('r', 13), ('t', 9), ('v', 11), ('\\', 92)].lookup c

/-- The class of an escape that stands for one. -/
def categoryEscape? (c : Char) : Option SetItem :=
  [('d', SetItem.category .digit false), ('D', .category .digit true), ('s', .category .space false),
    ('S', .category .space true), ('w', .category .word false), ('W', .category .word true)].lookup c

/-- The place of an escape that stands for one. -/
def anchorEscape? (c : Char) : Option Anchor :=
  [('A', Anchor.textStart), ('b', .boundary), ('B', .noBoundary), ('Z', .textEnd)].lookup c

/-- Whether a character is a letter of ASCII. -/
def isLetter (c : Char) : Bool := decide ('a' ≤ c.toLower ∧ c.toLower ≤ 'z')

/-- The code point of an escape with `count` hexadecimal digits. -/
def readHexEscape (c : Char) (count : Nat) : Read Nat := do
  let digits ← takeChars isHex count
  let escape := '\\' :: c :: digits
  if digits.length ≠ count then
    failAt (.incompleteEscape (String.ofList escape)) escape.length
  else
    let n := hexValue digits
    if 0x10FFFF < n then failAt (.badEscape (String.ofList escape)) escape.length else return n

/-- The code point of an escape by the name of a character; no names are known. -/
def readNamedEscape : Read Nat := do
  if !(← accept '\x7b') then failAt (.missing "\x7b")
  let name ← takeName '\x7d' "character name"
  failAt (.unknownCharacter (String.ofList name)) (name.length + 4)

/-- The code point of an escape that is the same inside and outside a set, if it is one. -/
def readCommonEscape? (c : Char) : Read (Option Nat) := do
  match c with
  | 'x' => return some (← readHexEscape c 2)
  | 'u' => return some (← readHexEscape c 4)
  | 'U' => return some (← readHexEscape c 8)
  | 'N' => return some (← readNamedEscape)
  | _ => return none

/-- What remains of an escape: any character but a letter stands for itself. -/
def readOtherEscape (c : Char) : Read Nat := do
  if isLetter c then failAt (.badEscape (String.ofList ['\\', c])) 2 else return c.toNat

/-- The member that an escape stands for in a set. -/
def readSetEscape (c : Char) : Read SetItem := do
  match plainEscape? c, categoryEscape? c with
  | some n, _ => return .code n
  | none, some item => return item
  | none, none =>
    match ← readCommonEscape? c with
    | some n => return .code n
    | none =>
      if isOctal c then
        let digits := c :: (← takeChars isOctal 2)
        let n := octalValue digits
        if 0o377 < n then
          failAt (.octalTooLarge (String.ofList ('\\' :: digits))) (digits.length + 1)
        else return .code n
      else if isAsciiDigit c then failAt (.badEscape (String.ofList ['\\', c])) 2
      else return .code (← readOtherEscape c)

/-- The part that refers to a group by number. -/
def readReference (digits : List Char) : Read Node := do
  let n := decimalValue digits
  let r ← get
  if n < r.widths.length then
    if !isClosed r n then failAt .openGroup (digits.length + 1)
    else
      checkLookbehind n
      return .reference n
  else failAt (.badReference n) digits.length

/-- The part that an escape stands for outside sets. -/
def readEscape (c : Char) : Read Node := do
  match anchorEscape? c, categoryEscape? c, plainEscape? c with
  | some a, _, _ => return .anchor a
  | none, some item, _ => return .set false [item]
  | none, none, some n => return .code n
  | none, none, none =>
    match ← readCommonEscape? c with
    | some n => return .code n
    | none =>
      if c = '0' then return .code (octalValue (c :: (← takeChars isOctal 2)))
      else if isAsciiDigit c then
        match ← takeChars isAsciiDigit 1 with
        | [] => readReference [c]
        | second =>
          if isOctal c && second.all isOctal then
            match ← takeChars isOctal 1 with
            | [] => readReference (c :: second)
            | third =>
              let digits := c :: second ++ third
              let n := octalValue digits
              if 0o377 < n then failAt (.octalTooLarge (String.ofList ('\\' :: digits))) 4
              else return .code n
          else readReference (c :: second)
      else return .code (← readOtherEscape c)

/-- One end of a range in a set, or a member. -/
def readSetMember (token : List Char) : Read SetItem :=
  match token with
  | ['\\', c] => readSetEscape c
  | c :: _ => return .code c.toNat
  | [] => return .code 0

/-- The members of a set up to its closing bracket; `start` is where the set opens. -/
def readSetItems (start : Nat) : (fuel : Nat) → (items : List SetItem) → Read (List SetItem)
  | 0, items => return items
  | fuel + 1, items => do
    match ← next with
    | none => failAt .openSet ((← tell) - start)
    | some this =>
      if this = [']'] ∧ items ≠ [] then return items
      else
        let first ← readSetMember this
        if ← accept '-' then
          match ← next with
          | none => failAt .openSet ((← tell) - start)
          | some that =>
            if that = [']'] then return items ++ [first, .code 45]
            else
              let last ← readSetMember that
              let bad : Read (List SetItem) :=
                failAt (.badRange (String.ofList this) (String.ofList that))
                  (this.length + 1 + that.length)
              match first, last with
              | .code a, .code b =>
                if b < a then bad else readSetItems start fuel (items ++ [.range a b])
              | _, _ => bad
        else readSetItems start fuel (items ++ [first])

/-- A set of characters, whose opening bracket was taken. -/
def readSet : Read Node := do
  let start := (← tell) - 1
  let negated ← accept '^'
  let items ← readSetItems start ((← get).ahead.length + 1) []
  return .set negated items

/-- Switches in a group: the letter that was taken, and the switches that are on so far. Gives the
switches, and the character after them. -/
def readFlagsOn : (fuel : Nat) → (letter : List Char) → (on : Flags) → Read (Flags × List Char)
  | 0, letter, on => return (on, letter)
  | fuel + 1, letter, on => do
    let flag := (Flags.ofLetter? letter).getD {}
    if flag.locale then failAt .byteFlag
    let on := on.union flag
    if !(flag.inter Flags.repertoires).isEmpty && on.inter Flags.repertoires != flag then
      failAt .clashingFlags
    match ← next with
    | none => failAt (.missing "-, : or )")
    | some c =>
      if c = [')'] ∨ c = ['-'] ∨ c = [':'] then return (on, c)
      else if (Flags.ofLetter? c).isNone then
        failAt (if c.all fun d => isAlphanumeric d && !isDecimal d then .unknownFlag
          else .missing "-, : or )") c.length
      else readFlagsOn fuel c on

/-- Switches after a hyphen, up to the colon. -/
def readFlagsOff : (fuel : Nat) → (letter : List Char) → (off : Flags) → Read Flags
  | 0, _, off => return off
  | fuel + 1, letter, off => do
    let flag := (Flags.ofLetter? letter).getD {}
    if !(flag.inter Flags.repertoires).isEmpty then failAt .repertoireOff
    let off := off.union flag
    match ← next with
    | none => failAt (.missing ":")
    | some c =>
      if c = [':'] then return off
      else if (Flags.ofLetter? c).isNone then
        failAt (if c.all fun d => isAlphanumeric d && !isDecimal d then .unknownFlag
          else .missing ":") c.length
      else readFlagsOff fuel c off

/-- The switches of a group; `none` when they are for the whole pattern. -/
def readFlags (letter : List Char) : Read (Option (Flags × Flags)) := do
  let fuel := (← get).ahead.length + 1
  let (on, stop) ← if letter = ['-'] then pure ({}, letter) else readFlagsOn fuel letter {}
  if stop = [')'] then
    modify fun r => { r with flags := r.flags.union on }
    return none
  else
    if on.template then failAt .globalFlagOn 1
    let off ← if stop = ['-'] then do
        match ← next with
        | none => failAt (.missing "flag")
        | some c =>
          if (Flags.ofLetter? c).isNone then
            failAt (if c.all fun d => isAlphanumeric d && !isDecimal d then .unknownFlag
              else .missing "flag") c.length
          else readFlagsOff fuel c {}
      else pure {}
    if off.template then failAt .globalFlagOff 1
    if !(on.inter off).isEmpty then failAt .flagOnAndOff 1
    return some (on, off)

/-- Opens a group; gives its number. -/
def openGroup (name : Option (List Char)) : Read Nat := do
  let r ← get
  let index := r.widths.length
  match name with
  | none => pure ()
  | some name =>
    match r.names.lookup (String.ofList name) with
    | some former =>
      failAt (.redefinition (String.ofList name) index former) (name.length + 1)
    | none => modify fun r => { r with names := r.names ++ [(String.ofList name, index)] }
  modify fun r => { r with widths := r.widths ++ [none] }
  return index

/-- Closes a group. -/
def closeGroup (index : Nat) (body : Node) : Read Unit :=
  modify fun r => { r with widths := r.widths.set index (some (body.width r.widths)) }

/-- The bounds of rounds after an opening brace; `none` when it is an ordinary character. -/
def readBounds (here : Nat) : Read (Option (Nat × Nat)) := do
  if (← peek) = some ['\x7d'] then return none
  let saved := (← get).ahead
  let fuel := saved.length
  let low ← takeChars isAsciiDigit fuel
  let high ← if ← accept ',' then takeChars isAsciiDigit fuel else pure low
  if !(← accept '\x7d') then
    modify fun r => { r with ahead := saved }
    return none
  let least := decimalValue low
  let most := if high.isEmpty then unbounded else decimalValue high
  if unbounded ≤ least ∨ (¬ high.isEmpty ∧ unbounded ≤ most) then throw { cause := .tooManyRounds }
  if most < least then failAt .leastAboveMost ((← tell) - here)
  return some (least, most)

/-- Adds rounds to the last item. -/
def addRounds (here least most : Nat) (items : List Node) : Read (List Node) := do
  let offset := (← tell) - here + 1
  match items with
  | [] => failAt .nothingToRepeat offset
  | .anchor _ :: _ => failAt .nothingToRepeat offset
  | .rounds _ _ _ _ :: _ => failAt .multipleRepeat offset
  | item :: rest =>
    if ← accept '?' then return .rounds .lazy least most item :: rest
    else if ← accept '+' then return .rounds .possessive least most item :: rest
    else return .rounds .greedy least most item :: rest

/-- The parts of a sequence as one part; they are given in reverse. -/
def sequence (items : List Node) : Node :=
  match items with
  | [] => .empty
  | last :: rest => rest.foldl (fun acc n => .seq n acc) last

/-- Passes over a comment in a group. -/
def skipComment (start : Nat) : (fuel : Nat) → Read Unit
  | 0 => return ()
  | fuel + 1 => do
    match ← next with
    | none => failAt .openComment ((← tell) - start)
    | some t => if t = [')'] then return () else skipComment start fuel

/-- Passes over a comment that ends with the line. -/
def skipLine : (fuel : Nat) → Read Unit
  | 0 => return ()
  | fuel + 1 => do
    match ← next with
    | none => return ()
    | some t => if t = ['\n'] then return () else skipLine fuel

/-- What the opening of a group says. -/
inductive Opening where
  /-- The part is complete; it may be none, after a comment or switches. -/
  | done (item : Option Node)
  | flagsForAll
  | capture (name : Option (List Char))
  | plain (on off : Flags)
  | atomic
  | look (ahead negated : Bool)
  | conditional (index : Nat)

/-- The number of a group that a condition names. -/
def readCondition : Read Nat := do
  let name ← takeName ')' "group name"
  if isGroupName name then
    match (← get).names.lookup (String.ofList name) with
    | some n => return n
    | none => failAt (.unknownName (String.ofList name)) (name.length + 1)
  else
    match Number.parseInt? name with
    | some (.ofNat n) =>
      if n = 0 then failAt .groupNumber (name.length + 1)
      else if 0x3FFFFFFF ≤ n then failAt (.badReference n) (name.length + 1)
      else
        let position := (← tell) - name.length - 1
        modify fun r =>
          if (r.asked.lookup n).isSome then r else { r with asked := r.asked ++ [(n, position)] }
        return n
    | _ => failAt (.badName (String.ofList name)) (name.length + 1)

/-- What follows `(?P`. -/
def readNamed : Read Opening := do
  if ← accept '<' then
    let name ← takeName '>' "group name"
    checkGroupName name
    return .capture (some name)
  else if ← accept '=' then
    let name ← takeName ')' "group name"
    checkGroupName name
    match (← get).names.lookup (String.ofList name) with
    | none => failAt (.unknownName (String.ofList name)) (name.length + 1)
    | some n =>
      if !isClosed (← get) n then failAt .openGroup (name.length + 1)
      else
        checkLookbehind n
        return .done (some (.reference n))
  else
    match ← next with
    | none => failAt .unexpectedEnd
    | some c => failAt (.unknownExtension (String.ofList (['?', 'P'] ++ c))) (c.length + 2)

/-- Reads the opening of a group, whose parenthesis at `start` was taken. -/
def readOpening (start : Nat) : Read Opening := do
  if !(← accept '?') then return .capture none
  match ← next with
  | none => failAt .unexpectedEnd
  | some c =>
    if c = ['P'] then readNamed
    else if c = [':'] then return .plain {} {}
    else if c = ['#'] then
      skipComment start ((← get).ahead.length + 1)
      return .done none
    else if c = ['='] ∨ c = ['!'] then return .look true (c == ['!'])
    else if c = ['<'] then
      match ← next with
      | none => failAt .unexpectedEnd
      | some d =>
        if d = ['='] ∨ d = ['!'] then return .look false (d == ['!'])
        else failAt (.unknownExtension (String.ofList (['?', '<'] ++ d))) (d.length + 2)
    else if c = ['('] then return .conditional (← readCondition)
    else if c = ['>'] then return .atomic
    else if (Flags.ofLetter? c).isSome ∨ c = ['-'] then
      match ← readFlags c with
      | none => return .flagsForAll
      | some (on, off) => return .plain on off
    else failAt (.unknownExtension (String.ofList ('?' :: c))) (c.length + 1)

/-- Fails unless the next token closes a group that opened at `start`. -/
def expectClose (start : Nat) : Read Unit := do
  if !(← accept ')') then failAt .openSubpattern ((← tell) - start)

mutual

/-- Reads alternatives up to a closing parenthesis or the end. `top` tells whether they are those of
the whole pattern, and `first` whether nothing was read yet. -/
def readAlternatives : (fuel : Nat) → (verbose top first : Bool) → Read Node
  | 0, _, _, _ => return .empty
  | fuel + 1, verbose, top, first => do
    let items ← readSequence fuel verbose (top && first) []
    let one := sequence items
    if ← accept '|' then
      let flags := (← get).flags
      let verbose := if top then flags.verbose else verbose
      return .alt one (← readAlternatives fuel verbose top false)
    else return one

/-- Reads the parts of a sequence; those read so far are given in reverse. -/
def readSequence : (fuel : Nat) → (verbose first : Bool) → (items : List Node) → Read (List Node)
  | 0, _, _, items => return items
  | fuel + 1, verbose, first, items => do
    match ← peek with
    | none => return items
    | some this =>
      if this = ['|'] ∨ this = [')'] then return items
      skip
      match this with
      | ['\\', c] => readSequence fuel verbose first ((← readEscape c) :: items)
      | [c] =>
        if verbose && (c == ' ' || decide (9 ≤ c.toNat ∧ c.toNat ≤ 13)) then
          readSequence fuel verbose first items
        else if verbose && c == '#' then
          skipLine ((← get).ahead.length + 1)
          readSequence fuel verbose first items
        else
          match c with
          | '[' => readSequence fuel verbose first ((← readSet) :: items)
          | '.' => readSequence fuel verbose first (.any :: items)
          | '^' => readSequence fuel verbose first (.anchor .start :: items)
          | '$' => readSequence fuel verbose first (.anchor .finish :: items)
          | '?' => readSequence fuel verbose first (← addRounds (← tell) 0 1 items)
          | '*' => readSequence fuel verbose first (← addRounds (← tell) 0 unbounded items)
          | '+' => readSequence fuel verbose first (← addRounds (← tell) 1 unbounded items)
          | '\x7b' =>
            let here ← tell
            match ← readBounds here with
            | none => readSequence fuel verbose first (.code c.toNat :: items)
            | some (least, most) =>
              readSequence fuel verbose first (← addRounds here least most items)
          | '(' =>
            let start := (← tell) - 1
            match ← readOpening start with
            | .done item => readSequence fuel verbose first (item.toList ++ items)
            | .flagsForAll =>
              if !first || !items.isEmpty then failAt .lateFlags ((← tell) - start)
              let flags := (← get).flags
              readSequence fuel flags.verbose first items
            | .look ahead negated =>
              let outer := (← get).lookbehind
              if !ahead && outer.isNone then modify Reader.lookBack
              let body ← readAlternatives fuel verbose false false
              if !ahead then modify fun r => { r with lookbehind := outer }
              expectClose start
              let isEmpty := match body with
                | .empty => true
                | _ => false
              let item := if negated && isEmpty then Node.fail else .look ahead negated body
              readSequence fuel verbose first (item :: items)
            | .conditional n =>
              checkLookbehind n
              let yes := sequence (← readSequence fuel verbose false [])
              let no ← if ← accept '|' then do
                  let no := sequence (← readSequence fuel verbose false [])
                  if (← peek) = some ['|'] then failAt .manyBranches
                  pure (some no)
                else pure none
              expectClose start
              readSequence fuel verbose first (.whenGroup n yes no :: items)
            | .capture name =>
              let index ← openGroup name
              let body ← readAlternatives fuel verbose false false
              expectClose start
              closeGroup index body
              readSequence fuel verbose first (.group (some index) {} {} body :: items)
            | .atomic =>
              let body ← readAlternatives fuel verbose false false
              expectClose start
              readSequence fuel verbose first (.atomic body :: items)
            | .plain on off =>
              let inside := (verbose || on.verbose) && !off.verbose
              let body ← readAlternatives fuel inside false false
              expectClose start
              readSequence fuel verbose first (.group none on off body :: items)
          | _ => readSequence fuel verbose first (.code c.toNat :: items)
      | _ => readSequence fuel verbose first items

end

/-- Reads the whole of a pattern. -/
def readWhole : Read Node := do
  checkAhead
  let node ← readAlternatives (4 * (← get).length + 8) false true true
  let r ← get
  if r.flags.ascii && r.flags.unicode then throw { cause := .twoRepertoires }
  if (← peek).isSome then failAt .unbalanced
  match r.asked.find? fun a => r.widths.length ≤ a.1 with
  | some (n, position) => throw { cause := .badReference n, position := some position }
  | none => pure ()
  if !node.looksBackFixed r.widths then throw { cause := .variableLookbehind }
  return node

/-- Reads a pattern. -/
def read (text : String) : Except Error Pattern := do
  let s := text.toList
  let (node, r) ← readWhole.run { ahead := tokens 0 s, length := s.length }
  return { node, flags := r.flags, widths := r.widths }

end HttpCourier.Pattern
