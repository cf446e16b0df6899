import HttpCourier.Yaml.Tag
import HttpCourier.Yaml.TokenStream

/-!
# Nodes

A document is a tree of nodes with tags. `Node.ofText?` reads one from a text: collections are
blocks, known by their indentation, or flows between brackets; an anchor names a node and an alias
stands for the node of that name. A text holds at most one document.

An alias inside the collection that it names leads back to it, so that the values of a document may
go on forever. `Node.follow` goes back a few times, which is farther than any reader of a
configuration looks.
-/

namespace HttpCourier.Yaml

/-- A node of a document. -/
inductive Node where
  | scalar (tag : String) (text : LooseText)
  | sequence (tag : String) (items : List Node)
  | mapping (tag : String) (entries : List (Node × Node))
  /-- The way back to a collection that this node is inside of: its name, and what it is without its
  members. -/
  | back (name : String) (empty : Node)

/-- The tag of a node. -/
def Node.tag : Node → String
  | scalar t _ => t
  | sequence t _ => t
  | mapping t _ => t
  | back _ empty => empty.tag

/-- How often a way back is followed before a member is reached. -/
def Node.returns : Nat := 4

/-- A node with the ways back followed, each member at most so many times; `fuel` bounds the
depth. -/
def Node.follow (names : List (String × Node)) : (fuel returns : Nat) → Node → Node
  | 0, _, n => n
  | fuel + 1, returns, n =>
    match n with
    | .scalar .. => n
    | .sequence tag items => .sequence tag (items.map (follow names fuel returns))
    | .mapping tag entries => .mapping tag (entries.map fun (key, value) =>
        (follow names fuel returns key, follow names fuel returns value))
    | .back name _ =>
      match returns, names.lookup name with
      | returns + 1, some n => follow names fuel returns n
      | _, _ => n

/-- What is known while a document is read. -/
structure Reader where
  stream : TokenStream
  /-- What the handles of tags stand for. -/
  handles : List (String × String) := []
  /-- The nodes with names; that of a collection whose members are being read is a way back to
  it. -/
  anchors : List (String × Node) := []
  /-- How many collections the next node is inside of. -/
  depth : Nat := 0

/-- Reading a part of a document. -/
abbrev Read (α : Type) := StateT Reader (Except Error) α

namespace Reader

/-- The next token. -/
def peek : Read Token := do
  let r ← get
  let (t, stream) ← r.stream.peek
  set { r with stream }
  return t

/-- Goes past the next token. -/
def drop : Read Unit := modify fun r => { r with stream := r.stream.drop }

/-- Goes past the next token if it is the given one. -/
def accept (t : Token) : Read Bool := do
  if (← peek) = t then
    drop
    return true
  else return false

/-- Goes past the given token. -/
def expect (t : Token) : Read Unit := do
  if !(← accept t) then throw .grammar

/-- What the usual handles stand for. -/
def usualHandles : List (String × String) := [("!", "!"), ("!!", Tag.known "")]

/-- The name and the tag in front of a node. -/
structure Properties where
  anchor : Option String := none
  tag : Option String := none

/-- The tag that a handle and a suffix make. -/
def resolveTag (handle : Option String) (suffix : String) : Read String := do
  match handle with
  | none => return suffix
  | some h =>
    match (← get).handles.lookup h with
    | some written => return written ++ suffix
    | none => throw .grammar

/-- Reads the name and the tag in front of a node, in any order. -/
def properties : Read Properties := do
  match ← peek with
  | .anchor name =>
    drop
    match ← peek with
    | .tag h s =>
      drop
      return { anchor := some name, tag := some (← resolveTag h s) }
    | _ => return { anchor := some name }
  | .tag h s =>
    drop
    match ← peek with
    | .anchor name =>
      drop
      return { anchor := some name, tag := some (← resolveTag h s) }
    | _ => return { tag := some (← resolveTag h s) }
  | _ => return {}

/-- A tag that says what the type is. -/
def Properties.explicitTag? (p : Properties) : Option String := p.tag.filter (· ≠ "!")

/-- A name may be given once. -/
def checkAnchor (p : Properties) : Read Unit := do
  match p.anchor with
  | none => return ()
  | some name => if ((← get).anchors.lookup name).isSome then throw .reference

/-- Gives a node its name. -/
def keep (p : Properties) (n : Node) : Read Node := do
  match p.anchor with
  | none => return n
  | some name =>
    modify fun r => { r with anchors := (name, n) :: r.anchors }
    return n

/-- The node of a scalar: without a tag, a plain one has the type that it looks like. -/
def scalarNode (p : Properties) (text : LooseText) (plain : Bool) : Node :=
  let implied := match text with
    | .whole s => if (plain && p.tag.isNone) || p.tag == some "!" then Tag.ofPlain s.toList else Tag.text
    | .torn _ => Tag.text
  .scalar (p.explicitTag?.getD implied) text

/-- A missing node. -/
def nothing : Node := .scalar Tag.null (.whole "")

/-- How many collections may be open at a time. The reader calls itself for each, and how far the
stack goes depends on the caller too. -/
def maxDepth : Nat := 490

/-- Where a node stands. -/
inductive Place where
  | flow
  | block
  /-- As the key or value of a block mapping, where a sequence needs no indentation. -/
  | entry
  deriving DecidableEq

/-- The tokens before which a node is missing, by the place. -/
def endsEntry : Token → Bool
  | .key | .value | .blockEnd => true
  | _ => false

mutual

/-- Reads a node; `fuel` bounds the nodes inside it. -/
def node : (fuel : Nat) → Place → Read Node
  | 0, _ => throw .grammar
  | fuel + 1, place => do
    match ← peek with
    | .alias name =>
      drop
      match (← get).anchors.lookup name with
      | some n => return n
      | none => throw .reference
    | _ =>
      let p ← properties
      let next ← peek
      let isBlock := place ≠ .flow
      match next with
      | .scalar text plain =>
        drop
        checkAnchor p
        keep p (scalarNode p text plain)
      | .flowSequenceStart =>
        drop
        collection p (.sequence (p.explicitTag?.getD Tag.sequence)) (flowItems fuel true [])
      | .flowMappingStart =>
        drop
        collection p (.mapping (p.explicitTag?.getD Tag.mapping)) (flowEntries fuel true [])
      | .blockEntry =>
        if place = .entry then
          collection p (.sequence (p.explicitTag?.getD Tag.sequence)) (looseItems fuel [])
        else missing p
      | .blockSequenceStart =>
        if isBlock then
          drop
          collection p (.sequence (p.explicitTag?.getD Tag.sequence)) (blockItems fuel [])
        else missing p
      | .blockMappingStart =>
        if isBlock then
          drop
          collection p (.mapping (p.explicitTag?.getD Tag.mapping)) (blockEntries fuel [])
        else missing p
      | _ => missing p

/-- Reads a collection: while its members are read, its name leads back to it. -/
def collection {α : Type} (p : Properties) (make : List α → Node) (members : Read (List α)) :
    Read Node := do
  checkAnchor p
  if (← get).depth = maxDepth then throw .endless
  let _ ← keep p (.back (p.anchor.getD "") (make []))
  modify fun r => { r with depth := r.depth + 1 }
  let n := make (← members)
  modify fun r => { r with depth := r.depth - 1 }
  keep p n

/-- A node of which there is nothing but a name or a tag. -/
def missing (p : Properties) : Read Node := do
  if p.anchor.isNone && p.tag.isNone then throw .grammar
  checkAnchor p
  keep p (.scalar (p.explicitTag?.getD Tag.null) (.whole ""))

/-- Reads the items of a block sequence. -/
def blockItems : (fuel : Nat) → List Node → Read (List Node)
  | 0, _ => throw .grammar
  | fuel + 1, items => do
    if ← accept .blockEntry then
      let next ← peek
      if next = .blockEntry ∨ next = .blockEnd then blockItems fuel (items ++ [nothing])
      else blockItems fuel (items ++ [← node fuel .block])
    else
      expect .blockEnd
      return items

/-- Reads the items of a sequence that is not indented. -/
def looseItems : (fuel : Nat) → List Node → Read (List Node)
  | 0, _ => throw .grammar
  | fuel + 1, items => do
    if ← accept .blockEntry then
      let next ← peek
      if next = .blockEntry ∨ endsEntry next then looseItems fuel (items ++ [nothing])
      else looseItems fuel (items ++ [← node fuel .block])
    else return items

/-- Reads the entries of a block mapping. -/
def blockEntries : (fuel : Nat) → List (Node × Node) → Read (List (Node × Node))
  | 0, _ => throw .grammar
  | fuel + 1, entries => do
    if ← accept .key then
      let key ← if endsEntry (← peek) then pure nothing else node fuel .entry
      let value ← if ← accept .value then
          if endsEntry (← peek) then pure nothing else node fuel .entry
        else pure nothing
      blockEntries fuel (entries ++ [(key, value)])
    else
      expect .blockEnd
      return entries

/-- Reads the items of a flow sequence; an item may be a mapping with a single entry. -/
def flowItems : (fuel : Nat) → (first : Bool) → List Node → Read (List Node)
  | 0, _, _ => throw .grammar
  | fuel + 1, first, items => do
    if ← accept .flowSequenceEnd then return items
    if !first then expect .flowEntry
    if ← accept .key then
      flowItems fuel false (items ++ [← singleEntry fuel])
    else if ← accept .flowSequenceEnd then return items
    else flowItems fuel false (items ++ [← node fuel .flow])

/-- Reads a mapping with a single entry inside a flow sequence. -/
def singleEntry : (fuel : Nat) → Read Node
  | 0 => throw .grammar
  | fuel + 1 => do
    let isEnd : Token → Bool := fun t => t == .flowEntry || t == .flowSequenceEnd
    let next ← peek
    let key ← if next = .value ∨ isEnd next then pure nothing else node fuel .flow
    let value ← if ← accept .value then
        if isEnd (← peek) then pure nothing else node fuel .flow
      else pure nothing
    return .mapping Tag.mapping [(key, value)]

/-- Reads the entries of a flow mapping; an entry may be a key alone. -/
def flowEntries : (fuel : Nat) → (first : Bool) → List (Node × Node) → Read (List (Node × Node))
  | 0, _, _ => throw .grammar
  | fuel + 1, first, entries => do
    let isEnd : Token → Bool := fun t => t == .flowEntry || t == .flowMappingEnd
    if ← accept .flowMappingEnd then return entries
    if !first then expect .flowEntry
    if ← accept .key then
      let next ← peek
      let key ← if next = .value ∨ isEnd next then pure nothing else node fuel .flow
      let value ← if ← accept .value then
          if isEnd (← peek) then pure nothing else node fuel .flow
        else pure nothing
      flowEntries fuel false (entries ++ [(key, value)])
    else if ← accept .flowMappingEnd then return entries
    else flowEntries fuel false (entries ++ [(← node fuel .flow, nothing)])

end

/-- Reads the directives in front of a document; `version` says whether the version was given. -/
def directives : (fuel : Nat) → (version : Bool) → List (String × String) → Read (List (String × String))
  | 0, _, _ => throw .grammar
  | fuel + 1, version, handles => do
    match ← peek with
    | .directive d =>
      drop
      match d with
      | .version major => if version ∨ major ≠ 1 then throw .grammar else directives fuel true handles
      | .tag handle written =>
        if (handles.lookup handle).isSome then throw .grammar
        else directives fuel version ((handle, written) :: handles)
      | .other => directives fuel version handles
    | _ => return handles

/-- Goes past marks at the end of a document. -/
def skipEnds : (fuel : Nat) → Read Unit
  | 0 => return ()
  | fuel + 1 => do if ← accept .documentEnd then skipEnds fuel

/-- Whether a token stands between documents. -/
def isBetween : Token → Bool
  | .directive _ | .documentStart | .documentEnd | .streamEnd => true
  | _ => false

/-- Reads the beginning of a document with a mark; `false` at the end of the text. -/
def start (fuel : Nat) : Read Bool := do
  skipEnds fuel
  if (← peek) = .streamEnd then return false
  let handles ← directives fuel false []
  expect .documentStart
  modify fun r => { r with handles := handles ++ usualHandles, anchors := [] }
  return true

/-- Reads the first document, if there is one. -/
def first (fuel : Nat) : Read (Option Node) := do
  match ← peek with
  | .directive _ | .documentStart =>
    let _ ← start fuel
    if isBetween (← peek) then return some nothing
    return some (← node fuel .block)
  | .streamEnd => return none
  | _ =>
    modify fun r => { r with handles := usualHandles }
    return some (← node fuel .block)

/-- Reads the whole text. -/
def single (fuel : Nat) : Read (Option Node) := do
  let n ← first fuel
  if n.isSome then
    let _ ← accept .documentEnd
    if ← start fuel then throw .reference
  return n

end Reader

/-- The node of the document in a text, if there is one. -/
def Node.ofText? (text : List Char) : Except Error (Option Node) := do
  let (n, r) ← (Reader.single (4 * text.length + 16)).run { stream := .ofText text }
  return n.map (Node.follow r.anchors ((Node.returns + 1) * (text.length + 2)) Node.returns)

end HttpCourier.Yaml
