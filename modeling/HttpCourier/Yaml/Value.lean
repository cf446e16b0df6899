import HttpCourier.Bytes.Base64
import HttpCourier.Config.Data
import HttpCourier.Number.Parse
import HttpCourier.Text.Quoted
import HttpCourier.Yaml.Node

/-!
# The values of nodes

`load` reads a document and gives its value. The members of collections are valued level by level,
so that of several faults the one nearest to the root is reported, and of those the first.
-/

namespace HttpCourier.Yaml

open Text

/-- Faults with the level at which they show. -/
abbrev Flaws := List (Nat × Error)

/-- A value, as far as it can be had, and the faults that were found. -/
abbrev Valued (α : Type) := α × Flaws

namespace Whole

/-- How many decimal digits a number may have. -/
def maxDigits : Nat := 4300

/-- A fault of a text that is no whole number. -/
def badText (base : Nat) (s : List CodePoint) : Error :=
  .unsound "ValueError" ("invalid literal for int() with base " ++ toString base ++ ": "
    ++ String.ofList ((LooseText.ofPoints s).quoted.toList.take 200))

/-- Drops a sign. -/
def dropSign : List CodePoint → List CodePoint
  | .char '+' :: rest => rest
  | .char '-' :: rest => rest
  | s => s

/-- Reads decimal digits. -/
def decimal (s : List CodePoint) : Except Error Int :=
  let n := s.countP fun p => p.char?.any Char.isDigit
  if maxDigits < n then
    .error (.unsound "ValueError" (
      "Exceeds the limit (4300 digits) for integer string conversion: value has "
      ++ toString n ++ " digits; use sys.set_int_max_str_digits() to increase the limit"))
  else match (s.mapM CodePoint.char?).bind Number.parseInt? with
    | some n => .ok n
    | none => .error (badText 10 s)

/-- The digits of a numeral behind the mark of its base, if it has one. -/
def dropMark (mark : Char) : List CodePoint → List CodePoint
  | .char '0' :: .char c :: rest => if c.toLower = mark then rest else .char '0' :: .char c :: rest
  | s => s

/-- The value of a digit of a base up to sixteen. -/
def digit? (base : Nat) (p : CodePoint) : Option Nat := (p.char?.bind Bytes.hexValue?).filter (· < base)

/-- Reads digits of a base up to sixteen, which may have a sign and the mark of the base. -/
def inBase (base : Nat) (mark : Char) (s : List CodePoint) : Except Error Int :=
  let trimmed := LooseText.trimPoints s
  match (dropMark mark (dropSign trimmed)).mapM (digit? base) with
  | some (d :: ds) =>
    let n : Nat := (d :: ds).foldl (fun n d => base * n + d) 0
    .ok (if trimmed.head? = some (.char '-') then -n else n)
  | _ => .error (badText base s)

/-- Reads a whole number without a sign. -/
def unsigned (s : List CodePoint) : Except Error Int :=
  match s with
  | [.char '0'] => .ok 0
  | .char '0' :: .char 'b' :: rest => inBase 2 'b' rest
  | .char '0' :: .char 'x' :: rest => inBase 16 'x' rest
  | .char '0' :: _ => inBase 8 'o' s
  | _ =>
    if s.contains (.char ':') then
      (splitOn (.char ':') s).foldlM (fun n part => (decimal part).map fun d => n * 60 + d) (0 : Int)
    else decimal s

/-- Reads a whole number. -/
def read (text : LooseText) : Except Error Int :=
  match text.points.filter (· ≠ .char '_') with
  | [] => .error (.unsound "IndexError" "string index out of range")
  | .char '-' :: rest => (unsigned rest).map fun n => -n
  | s => unsigned (dropSign s)

end Whole

namespace Real

/-- Reads a numeral. -/
def numeral (s : List CodePoint) : Except Error Binary64 :=
  match (s.mapM CodePoint.char?).bind fun s => Number.parseFloat? (trimChars s) with
  | some x => .ok x
  | none => .error (.unsound "ValueError"
      ("could not convert string to float: " ++ (LooseText.ofPoints s).lower.quoted))

/-- The product with a natural number. -/
def times (x : Binary64) (n : Nat) : Binary64 :=
  match x.toFraction? with
  | some (num, den) => .ofRatio (decide (num < 0)) (num.natAbs * n) den
  | none => x

/-- Adds up parts below sixty, the last one first. -/
def sum (base : Nat) (total : Binary64) : List (List CodePoint) → Except Error Binary64
  | [] => .ok total
  | part :: rest => do sum (base * 60) (total.add (times (← numeral part) base)) rest

/-- Whether a text is a word. -/
def isWord (word : String) (s : List CodePoint) : Bool := s == word.toList.map .char

/-- Reads a real number without a sign. -/
def unsigned (s : List CodePoint) : Except Error Binary64 :=
  if isWord ".inf" s then .ok (.infinite false)
  else if isWord ".nan" s then .ok .nan
  else if s.contains (.char ':') then sum 1 (.ofNat 0) (splitOn (.char ':') s).reverse
  else numeral s

/-- The number with the other sign. -/
def negated : Binary64 → Binary64
  | .nan => .nan
  | .infinite s => .infinite !s
  | .finite s m e => .finite (!s) m e

/-- Reads a real number. -/
def read (text : LooseText) : Except Error Binary64 :=
  match (text.points.filter (· ≠ .char '_')).map (CodePoint.mapChar Char.toLower) with
  | [] => .error (.unsound "IndexError" "string index out of range")
  | .char '-' :: rest => (unsigned rest).map negated
  | s => unsigned (Whole.dropSign s)

end Real

namespace Value

/-- Reads a switch. -/
def switch (text : LooseText) : Except Error Data :=
  let known := match text with
    | .whole s => Tag.switchWords.lookup (String.ofList (s.toList.map Char.toLower))
    | .torn _ => none
  match known with
  | some b => .ok (.flag b)
  | none => .error (.unsound "KeyError" text.lower.quoted)

/-- Reads a date. -/
def moment (text : LooseText) : Except Error Data :=
  let form := match text with
    | .whole s => Moment.ofText? (Tag.dropFinalBreak s.toList)
    | .torn _ => none
  match form with
  | some m => m.check.map fun _ => .other m.kindName m.shown
  | none => .error (.unsound "AttributeError" "'NoneType' object has no attribute 'groupdict'")

/-- Reads bytes. -/
def binary (text : LooseText) : Except Error Data :=
  match text with
  | .torn _ => .error .value
  | .whole s =>
    match Bytes.ofAscii? s.toList, Base64.decode s.toList with
    | some _, .ok bytes => .ok (.bytes bytes)
    | _, _ => .error .value

/-- The value of a text of a known type. -/
def ofScalar (tag : String) (text : LooseText) : Except Error Data :=
  if tag = Tag.text then .ok (.ofLoose text)
  else if tag = Tag.null then .ok .null
  else if tag = Tag.switch then switch text
  else if tag = Tag.whole then (Whole.read text).map .whole
  else if tag = Tag.real then (Real.read text).map .real
  else if tag = Tag.timestamp then moment text
  else if tag = Tag.known "binary" then binary text
  else .error .value

/-- The text of a node that is one, or has one under the default key; `fuel` bounds the depth. -/
def scalarText : (fuel : Nat) → Node → Except Error LooseText
  | 0, _ => .error .value
  | fuel + 1, n =>
    match n with
    | .scalar _ text => .ok text
    | .sequence .. => .error .value
    | .mapping _ entries =>
      match entries.find? fun e => e.1.tag == Tag.defaultKey with
      | some (_, n) => scalarText fuel n
      | none => .error .value
    | .back .. => .error .endless

/-- The entries of a mapping with those of the mappings that are merged into it in front; `fuel`
bounds the depth. -/
def flattened : (fuel : Nat) → List (Node × Node) → Except Error (List (Node × Node))
  | 0, entries => .ok entries
  | fuel + 1, entries => do
    let merged ← entries.mapM fun (key, value) =>
      if key.tag ≠ Tag.merge then pure []
      else match value with
        | .mapping _ inner => flattened fuel inner
        | .sequence _ items => do
          let parts ← items.mapM fun
            | .mapping _ inner => flattened fuel inner
            | .back _ (.mapping ..) => pure []
            | _ => throw .value
          pure parts.reverse.flatten
        | .back _ (.scalar ..) | .scalar .. => throw .value
        | .back .. => pure []
    let kept := entries.filterMap fun (key, value) =>
      if key.tag = Tag.merge then none
      else match key with
        | .scalar tag text => some (.scalar (if tag = Tag.defaultKey then Tag.text else tag) text, value)
        | _ => some (key, value)
    return merged.flatten ++ kept

/-- Whether a value may be a key. -/
def isKey : Data → Bool
  | .list _ | .map _ => false
  | .other kind _ => kind != "set"
  | _ => true

/-- The tags of collections that are no plain sequences or mappings. -/
def pairTags : List String := [Tag.known "omap", Tag.known "pairs"]

/-- The tag of sets. -/
def setTag : String := Tag.known "set"

/-- The single entry of a node that is a mapping with one. -/
def onlyEntry : Node → Except Error (Node × Node)
  | .mapping _ [e] => .ok e
  | _ => .error .value

/-- A value in the place of one that cannot be had. -/
def faulty (level : Nat) (e : Error) : Valued Data := (.null, [(level, e)])

/-- Puts an entry into a mapping, after both parts were valued; `level` is that of the mapping. -/
def addEntry (level : Nat) (entries : Valued (List (Data × Data))) (key value : Valued Data) :
    Valued (List (Data × Data)) :=
  let flaws := entries.2 ++ key.2
    ++ (if key.2.isEmpty && !isKey key.1 then [(level, .value)] else []) ++ value.2
  (Data.put key.1 value.1 entries.1, flaws)

/-- The value of a node; `level` is that of the collection it is a member of, and `fuel` bounds the
depth. -/
def ofNode : (fuel level : Nat) → Node → Valued Data
  | 0, level, _ => faulty level .value
  | fuel + 1, level, n =>
    let inside := level + 1
    let n := match n with
      | .back _ empty => empty
      | n => n
    let entriesOf (entries : List (Node × Node)) : Valued (List (Data × Data)) :=
      match flattened fuel entries with
      | .error e => ([], [(inside, e)])
      | .ok entries => entries.foldl (fun m e =>
          addEntry inside m (ofNode fuel inside e.1) (ofNode fuel inside e.2)) ([], [])
    if n.tag = Tag.mapping || n.tag = setTag then
      match n with
      | .mapping tag entries =>
        let (m, flaws) := entriesOf entries
        (if tag = setTag then .other "set" "set()" else .map m, flaws)
      | _ => faulty inside .value
    else if n.tag = Tag.sequence then
      match n with
      | .sequence _ items =>
        let values := items.map (ofNode fuel inside)
        (.list (values.map Prod.fst), values.flatMap Prod.snd)
      | _ => faulty inside .value
    else if pairTags.contains n.tag then
      match n with
      | .sequence _ items =>
        let pairs := items.map fun i => match onlyEntry i with
          | .error e => faulty inside e
          | .ok (key, value) =>
            let k := ofNode fuel inside key
            let v := ofNode fuel inside value
            (.list [k.1, v.1], k.2 ++ v.2)
        (.list (pairs.map Prod.fst), pairs.flatMap Prod.snd)
      | _ => faulty inside .value
    else match scalarText fuel n >>= ofScalar n.tag with
      | .ok d => (d, [])
      | .error e => faulty level e

/-- The first fault of the lowest level. -/
def firstFlaw? (flaws : Flaws) : Option Error :=
  let lowest := (flaws.map Prod.fst).min?
  (flaws.find? fun f => some f.1 == lowest).map Prod.snd

end Value

/-- Whether a character may stand in a document. -/
def isAllowed (c : Char) : Bool :=
  let n := c.toNat
  n == 9 || n == 10 || n == 13 || n == 0x85 || decide (32 ≤ n ∧ n ≤ 126)
    || decide (0xa0 ≤ n ∧ n ≤ 0xd7ff) || decide (0xe000 ≤ n ∧ n ≤ 0xfffd) || decide (0x10000 ≤ n)

/-- The value of the document in a text; nothing if there is no document. -/
def load (text : List Char) : Except Error Data := do
  if !text.all isAllowed then throw .character
  match ← Node.ofText? text with
  | none => return .null
  | some n =>
    let (value, flaws) := Value.ofNode ((Node.returns + 1) * (text.length + 2)) 0 n
    match Value.firstFlaw? flaws with
    | some e => throw e
    | none => return value

end HttpCourier.Yaml
