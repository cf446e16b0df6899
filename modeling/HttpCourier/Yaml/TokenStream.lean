import HttpCourier.Yaml.Token

/-!
# The stream of tokens

A `TokenStream` reads tokens one after another. The beginnings and ends of block collections follow
from the indentation, and whether a token is a key shows only at the colon behind it: tokens wait in
a queue until the first of them is certain (`TokenStream.fill`).
-/

namespace HttpCourier.Yaml

/-- A token that is a key if a colon follows. -/
structure PossibleKey where
  /-- The number of the token. -/
  number : Nat
  /-- Whether nothing else can stand there. -/
  required : Bool
  index : Nat
  line : Nat
  column : Nat

/-- Tokens that were read and those still to be read. -/
structure TokenStream where
  cursor : Cursor
  queue : List Token := []
  /-- How many tokens were taken. -/
  taken : Nat := 0
  done : Bool := false
  flowLevel : Nat := 0
  indent : Int := -1
  indents : List Int := []
  /-- Whether a key may begin here. -/
  allowKey : Bool := true
  /-- The possible keys by the level of flow collections. -/
  keys : List (Nat × PossibleKey) := []

namespace TokenStream

/-- The stream of a text. -/
def ofText (text : List Char) : TokenStream := { cursor := { rest := text } }

/-- Puts a token at the end of the queue. -/
def push (t : Token) (s : TokenStream) : TokenStream := { s with queue := s.queue ++ [t] }

/-- Puts a token into the queue by its number. -/
def insert (number : Nat) (t : Token) (s : TokenStream) : TokenStream :=
  { s with queue := s.queue.insertIdx (number - s.taken) t }

/-- Whether the cursor is inside a flow collection. -/
def inFlow (s : TokenStream) : Bool := s.flowLevel != 0

/-- Drops the possible keys that are too far behind. -/
def dropStaleKeys (s : TokenStream) : Except Error TokenStream :=
  let isStale (k : Nat × PossibleKey) : Bool :=
    k.2.line != s.cursor.line || s.cursor.index > k.2.index + 1024
  if s.keys.any fun k => isStale k && k.2.required then .error .token
  else .ok { s with keys := s.keys.filter fun k => !isStale k }

/-- Drops the possible key of the present level. -/
def dropKey (s : TokenStream) : Except Error TokenStream :=
  match s.keys.lookup s.flowLevel with
  | none => .ok s
  | some k =>
    if k.required then .error .token
    else .ok { s with keys := s.keys.filter fun e => e.1 != s.flowLevel }

/-- Notes that the next token may be a key. -/
def saveKey (s : TokenStream) : Except Error TokenStream :=
  if !s.allowKey then .ok s
  else do
    let s ← s.dropKey
    let key : PossibleKey := {
      number := s.taken + s.queue.length, required := !s.inFlow && s.indent == s.cursor.column,
      index := s.cursor.index, line := s.cursor.line, column := s.cursor.column }
    return { s with keys := s.keys ++ [(s.flowLevel, key)] }

/-- Ends the block collections that are indented more than a column. -/
def unwindTo (column : Int) : List Int → TokenStream → TokenStream
  | [], s => s
  | outer :: rest, s =>
    if s.indent > column then
      unwindTo column rest { s.push .blockEnd with indent := outer, indents := rest }
    else s

/-- Ends the block collections that are indented more than a column, outside flow collections. -/
def unwind (column : Int) (s : TokenStream) : TokenStream :=
  if s.inFlow then s else unwindTo column s.indents s

/-- Begins a block collection at a column, unless one begins there already. -/
def indentTo (column : Int) (s : TokenStream) : Option TokenStream :=
  if s.indent < column then some { s with indents := s.indent :: s.indents, indent := column } else none

/-- Ends the stream. -/
def fetchEnd (s : TokenStream) : Except Error TokenStream := do
  let s ← (s.unwind (-1)).dropKey
  return { s.push .streamEnd with allowKey := false, keys := [], done := true }

/-- Takes a directive. -/
def fetchDirective (s : TokenStream) : Except Error TokenStream := do
  let s ← (s.unwind (-1)).dropKey
  let (t, cursor) ← Token.readDirective s.cursor
  return { s.push t with allowKey := false, cursor }

/-- Takes a mark between documents. -/
def fetchSeparator (t : Token) (s : TokenStream) : Except Error TokenStream := do
  let s ← (s.unwind (-1)).dropKey
  return { s.push t with allowKey := false, cursor := s.cursor.forward 3 }

/-- Takes the beginning of a flow collection. -/
def fetchFlowStart (t : Token) (s : TokenStream) : Except Error TokenStream := do
  let s ← s.saveKey
  return { s.push t with flowLevel := s.flowLevel + 1, allowKey := true, cursor := s.cursor.step }

/-- Takes the end of a flow collection. -/
def fetchFlowEnd (t : Token) (s : TokenStream) : Except Error TokenStream := do
  let s ← s.dropKey
  return { s.push t with flowLevel := s.flowLevel - 1, allowKey := false, cursor := s.cursor.step }

/-- Takes a comma. -/
def fetchFlowEntry (s : TokenStream) : Except Error TokenStream := do
  let s ← s.dropKey
  return { s.push .flowEntry with allowKey := true, cursor := s.cursor.step }

/-- Begins a block collection at the cursor where none began, if one may begin there. -/
def beginBlock (t : Token) (s : TokenStream) : Except Error TokenStream :=
  if s.inFlow then .ok s
  else if !s.allowKey then .error .token
  else .ok (((s.indentTo s.cursor.column).map (push t)).getD s)

/-- Takes the mark of an entry of a block sequence. -/
def fetchBlockEntry (s : TokenStream) : Except Error TokenStream := do
  let s ← s.beginBlock .blockSequenceStart
  let s ← s.dropKey
  return { s.push .blockEntry with allowKey := true, cursor := s.cursor.step }

/-- Takes the mark of a key. -/
def fetchKey (s : TokenStream) : Except Error TokenStream := do
  let s ← s.beginBlock .blockMappingStart
  let s ← s.dropKey
  return { s.push .key with allowKey := !s.inFlow, cursor := s.cursor.step }

/-- Makes a key of a token that was read before. -/
def confirmKey (k : PossibleKey) (s : TokenStream) : TokenStream :=
  let s := { s with keys := s.keys.filter fun e => e.1 != s.flowLevel }.insert k.number .key
  let s := if s.inFlow then s
    else ((s.indentTo k.column).map (insert k.number .blockMappingStart)).getD s
  { s with allowKey := false }

/-- Takes the mark of a value. -/
def fetchValue (s : TokenStream) : Except Error TokenStream := do
  let s ← match s.keys.lookup s.flowLevel with
    | some k => pure (s.confirmKey k)
    | none => do
      let s ← s.beginBlock .blockMappingStart
      let s ← { s with allowKey := !s.inFlow }.dropKey
      pure s
  return { s.push .value with cursor := s.cursor.step }

/-- Takes a token that may be a key. -/
def fetchNode (read : Cursor → Except Error (Token × Cursor)) (s : TokenStream) :
    Except Error TokenStream := do
  let s ← s.saveKey
  let (t, cursor) ← read s.cursor
  return { s.push t with allowKey := false, cursor }

/-- Takes a block scalar. -/
def fetchBlockScalar (fold : Bool) (s : TokenStream) : Except Error TokenStream := do
  let s ← s.dropKey
  let (text, cursor) ← Block.read fold s.indent s.cursor
  return { s.push (.scalar (.whole (String.ofList text)) false) with allowKey := true, cursor }

/-- Takes a plain scalar. -/
def fetchPlain (s : TokenStream) : Except Error TokenStream := do
  let s ← s.saveKey
  let (text, broke, cursor) := Plain.read s.inFlow (s.indent + 1) s.cursor
  return { s.push (.scalar (.whole (String.ofList text)) true) with allowKey := broke, cursor }

/-- Reads a scalar between quotes. -/
def quoted (double : Bool) (c : Cursor) : Except Error (Token × Cursor) :=
  (Quoted.read double c).map fun (points, c) => (.scalar (.ofPoints points) false, c)

/-- Takes the next token, which begins at the cursor. -/
def fetchHere (s : TokenStream) : Except Error TokenStream :=
  let c := s.cursor
  let blankNext := isBlankOrEnd (c.peekAt 1)
  let other : Except Error TokenStream := if Plain.begins s.inFlow c then s.fetchPlain else .error .token
  match c.peek with
  | none => s.fetchEnd
  | some '%' => if c.column = 0 then s.fetchDirective else other
  | some '-' =>
    if c.column = 0 && c.atMark '-' then s.fetchSeparator .documentStart
    else if blankNext then s.fetchBlockEntry else other
  | some '.' => if c.column = 0 && c.atMark '.' then s.fetchSeparator .documentEnd else other
  | some '[' => s.fetchFlowStart .flowSequenceStart
  | some '\x7b' => s.fetchFlowStart .flowMappingStart
  | some ']' => s.fetchFlowEnd .flowSequenceEnd
  | some '\x7d' => s.fetchFlowEnd .flowMappingEnd
  | some ',' => s.fetchFlowEntry
  | some '?' => if s.inFlow || blankNext then s.fetchKey else other
  | some ':' => if s.inFlow || blankNext then s.fetchValue else other
  | some '*' => s.fetchNode fun c => (Token.readLabel c).map fun (n, c) => (.alias n, c)
  | some '&' => s.fetchNode fun c => (Token.readLabel c).map fun (n, c) => (.anchor n, c)
  | some '!' => s.fetchNode Token.readTag
  | some '|' => if s.inFlow then other else s.fetchBlockScalar false
  | some '>' => if s.inFlow then other else s.fetchBlockScalar true
  | some '\'' => s.fetchNode (quoted false)
  | some '"' => s.fetchNode (quoted true)
  | some _ => other

/-- Takes the next token. -/
def fetch (s : TokenStream) : Except Error TokenStream := do
  let (broke, cursor) := s.cursor.toToken
  let s ← { s with cursor, allowKey := s.allowKey || (broke && !s.inFlow) }.dropStaleKeys
  fetchHere (s.unwind s.cursor.column)

/-- Whether more tokens have to be read before the first one is certain. -/
def needsMore (s : TokenStream) : Bool :=
  s.queue.isEmpty || s.keys.any fun k => k.2.number == s.taken

/-- Reads tokens until the first one is certain; `fuel` bounds the tokens. -/
def fill : (fuel : Nat) → TokenStream → Except Error TokenStream
  | 0, s => .ok s
  | fuel + 1, s =>
    if s.done then .ok s
    else do
      let s ← if s.queue.isEmpty then pure s else s.dropStaleKeys
      if s.needsMore then fill fuel (← s.fetch) else return s

/-- The first token, which stays in the stream. -/
def peek (s : TokenStream) : Except Error (Token × TokenStream) := do
  let s ← s.fill (s.cursor.rest.length + 2)
  return (s.queue.headD .streamEnd, s)

/-- The stream after its first token. -/
def drop (s : TokenStream) : TokenStream := { s with queue := s.queue.tail, taken := s.taken + 1 }

end TokenStream

end HttpCourier.Yaml
