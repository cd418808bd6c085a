import Hexscope.Yaml.Tag
import Hexscope.Yaml.Token

/-!
# Nodes of a document

A document is a graph of scalars, sequences and mappings, each with a tag that says what it is. Nodes
are numbered, and a collection lists the numbers of its parts. An anchor names a node, and an alias
stands for the node of that name; an alias inside the node that it names makes that node a part of
itself. Where a value is left out, it is the empty plain scalar.
-/

namespace Hexscope.Yaml

/-- A part of a document. -/
inductive Node where
  | scalar (tag : Tag) (text : Text)
  | sequence (tag : Tag) (items : List Nat)
  | mapping (tag : Tag) (entries : List (Nat × Nat))
deriving Repr

namespace Node

/-- The node of a value that is left out. -/
def empty : Node := .scalar .null ""

instance : Inhabited Node := ⟨empty⟩

/-- The tag of a node. -/
def tag : Node → Tag
  | .scalar tag _ => tag
  | .sequence tag _ => tag
  | .mapping tag _ => tag

end Node

/-- The nodes of a document, and the number of its root. -/
structure Document where
  nodes : Array Node
  root : Nat
deriving Repr

namespace Document

/-- The tokens still to be read with the error behind them, the nodes so far, the anchors with the
numbers of their nodes, and the short forms of tags. -/
structure Source where
  tokens : List Token
  failure : Option Error
  nodes : Array Node
  anchors : List (String × Nat)
  handles : List (String × String)

/-- A step of reading nodes. -/
abbrev Reading := StateT Source (Except Error)

/-- The short forms that every document has. -/
def standardHandles : List (String × String) := [("!", "!"), ("!!", Tag.coreStart)]

/-- Refuses the document. -/
def refuse {α : Type} : Reading α := throw .malformed

/-- The next token. Behind the last one comes the error of the text, if it has one. -/
def peek? : Reading (Option Token) := do
  let s ← get
  match s.tokens.head?, s.failure with
  | none, some e => throw e
  | t, _ => return t

/-- Passes over a token. -/
def drop : Reading Unit := modify fun s => { s with tokens := s.tokens.tail }

/-- Whether the next token is one of several. -/
def isAt (ts : List Token) : Reading Bool := do return (← peek?).any ts.contains

/-- Passes over a token, which must be `t`. -/
def expect (t : Token) : Reading Unit := do
  if ← isAt [t] then drop else refuse

/-- Passes over a token if it is `t`, and tells whether it was. -/
def accept (t : Token) : Reading Bool := do
  if ← isAt [t] then
    drop
    return true
  else return false

/-- The anchor here, if there is one. -/
def anchor? : Reading (Option String) := do
  match ← peek? with
  | some (.anchor name) =>
    drop
    return some name
  | _ => return none

/-- The tag here, if there is one: its handle and the rest. -/
def tag? : Reading (Option (Option String × String)) := do
  match ← peek? with
  | some (.tag handle suffix) =>
    drop
    return some (handle, suffix)
  | _ => return none

/-- The full name of a tag. -/
def fullName : Option String × String → Reading String
  | (none, suffix) => return suffix
  | (some h, suffix) => do
    match (← get).handles.lookup h with
    | some start => return start ++ suffix
    | none => refuse

/-- The anchor and the tag of a node, in either order. -/
def properties : Reading (Option String × Option String) := do
  let (anchor, tag) ← match ← anchor? with
    | some a => pure (some a, ← tag?)
    | none =>
      match ← tag? with
      | some t => pure (← anchor?, some t)
      | none => pure (none, none)
  return (anchor, ← tag.mapM fullName)

/-- The tag of a node by its name, or the usual one. A lone exclamation mark stands for the usual
one, which for a scalar is that of its form, also in quotes. -/
def tagOr (usual form : Tag) : Option String → Tag
  | none => usual
  | some t => if t = "!" then form else .ofName t

/-- Adds a node under its anchor, which must be new, and yields its number. -/
def add (anchor : Option String) (n : Node) : Reading Nat := do
  let s ← get
  if s.anchors.any fun a => anchor = some a.1 then refuse
  let number := s.nodes.size
  let anchors := match anchor with
    | some a => (a, number) :: s.anchors
    | none => s.anchors
  set { s with nodes := s.nodes.push n, anchors }
  return number

/-- Adds a scalar. -/
def scalar (anchor tag : Option String) (text : Text) (plain : Bool) : Reading Nat :=
  let form := Tag.ofPlain text
  add anchor (.scalar (tagOr (if plain then form else .text) form tag) text)

/-- Adds a collection, whose parts are read after it is known. -/
def collection (anchor : Option String) (n : α → Node) (nothing : α) (parts : Reading α) :
    Reading Nat := do
  let number ← add anchor (n nothing)
  let ps ← parts
  modify fun s => { s with nodes := s.nodes.setIfInBounds number (n ps) }
  return number

mutual

/-- A node. Block collections are allowed if `block` says so, and sequences without an indentation
of their own if `flat` says so. -/
def read (block flat : Bool) : (fuel : Nat) → Reading Nat
  | 0 => refuse
  | fuel + 1 => do
    match ← peek? with
    | some (.alias name) =>
      drop
      match (← get).anchors.lookup name with
      | some n => return n
      | none => refuse
    | _ =>
      let (anchor, tag) ← properties
      let sequence := collection anchor (.sequence (tagOr .sequence .sequence tag)) []
      let mapping := collection anchor (.mapping (tagOr .mapping .mapping tag)) []
      match ← peek? with
      | some (.scalar text plain) =>
        drop
        scalar anchor tag text plain
      | some .flowSequence =>
        drop
        sequence (flowSequence true fuel)
      | some .flowMapping =>
        drop
        mapping (flowMapping true fuel)
      | t =>
        if flat && t = some .blockEntry then sequence (flatSequence fuel)
        else if block && t = some .blockSequence then
          drop
          sequence (blockSequence fuel)
        else if block && t = some .blockMapping then
          drop
          mapping (blockMapping fuel)
        else if anchor.isSome || tag.isSome then scalar anchor tag "" true
        else refuse

/-- A node, or the empty one if one of some tokens follows. -/
def readUnless (stops : List Token) (block flat : Bool) : (fuel : Nat) → Reading Nat
  | 0 => refuse
  | fuel + 1 => do
    if ← isAt stops then add none .empty else read block flat fuel

/-- The value behind a key, which may be missing. -/
def valueUnless (stops : List Token) (block : Bool) : (fuel : Nat) → Reading Nat
  | 0 => refuse
  | fuel + 1 => do
    if ← accept .value then readUnless stops block block fuel else add none .empty

/-- The entries of a block sequence and its end. -/
def blockSequence : (fuel : Nat) → Reading (List Nat)
  | 0 => refuse
  | fuel + 1 => do
    if ← accept .blockEntry then
      let n ← readUnless [.blockEntry, .blockEnd] true false fuel
      return n :: (← blockSequence fuel)
    else
      expect .blockEnd
      return []

/-- The entries of a block sequence that is indented like the key before it. -/
def flatSequence : (fuel : Nat) → Reading (List Nat)
  | 0 => refuse
  | fuel + 1 => do
    if ← accept .blockEntry then
      let n ← readUnless [.blockEntry, .key, .value, .blockEnd] true false fuel
      return n :: (← flatSequence fuel)
    else return []

/-- The entries of a block mapping and its end. -/
def blockMapping : (fuel : Nat) → Reading (List (Nat × Nat))
  | 0 => refuse
  | fuel + 1 => do
    if ← accept .key then
      let stops : List Token := [.key, .value, .blockEnd]
      let k ← readUnless stops true true fuel
      let v ← valueUnless stops true fuel
      return (k, v) :: (← blockMapping fuel)
    else
      expect .blockEnd
      return []

/-- The entries of a sequence in brackets and its end. -/
def flowSequence (first : Bool) : (fuel : Nat) → Reading (List Nat)
  | 0 => refuse
  | fuel + 1 => do
    if ← accept .flowSequenceEnd then return []
    if !first then expect .flowEntry
    if ← accept .flowSequenceEnd then return []
    let n ← if ← accept .key then do
        let k ← readUnless [.value, .flowEntry, .flowSequenceEnd] false false fuel
        let v ← valueUnless [.flowEntry, .flowSequenceEnd] false fuel
        add none (.mapping .mapping [(k, v)])
      else read false false fuel
    return n :: (← flowSequence false fuel)

/-- The entries of a mapping in braces and its end. -/
def flowMapping (first : Bool) : (fuel : Nat) → Reading (List (Nat × Nat))
  | 0 => refuse
  | fuel + 1 => do
    if ← accept .flowMappingEnd then return []
    if !first then expect .flowEntry
    if ← accept .flowMappingEnd then return []
    let e ← if ← accept .key then do
        let k ← readUnless [.value, .flowEntry, .flowMappingEnd] false false fuel
        let v ← valueUnless [.flowEntry, .flowMappingEnd] false fuel
        pure (k, v)
      else do
        let k ← read false false fuel
        pure (k, ← add none .empty)
    return e :: (← flowMapping false fuel)

end

/-- The directives before a document, of which one with a version may have been `seen`. -/
def directivesFrom : (fuel : Nat) → (seen : Bool) → Reading Unit
  | 0, _ => refuse
  | fuel + 1, seen => do
    match ← peek? with
    | some (.version major) =>
      if seen || major ≠ 1 then refuse
      drop
      directivesFrom fuel true
    | some (.tagHandle handle start) =>
      if (← get).handles.any (·.1 = handle) then refuse
      drop
      modify fun s => { s with handles := (handle, start) :: s.handles }
      directivesFrom fuel seen
    | some .otherDirective =>
      drop
      directivesFrom fuel seen
    | _ => pure ()

/-- The directives before a document and the mark of its start. -/
def start (fuel : Nat) : Reading Unit := do
  modify fun s => { s with handles := [] }
  directivesFrom fuel false
  modify fun s => { s with handles := s.handles ++ standardHandles }
  expect .documentStart

/-- Whether a token belongs to the start of a document. -/
def isStart : Token → Bool
  | .version _ | .tagHandle .. | .otherDirective | .documentStart => true
  | _ => false

/-- The root of a document. Without a mark at its start it may not be empty. -/
def readRoot (fuel : Nat) : Reading Nat := do
  if (← peek?).any isStart then
    start fuel
    match ← peek? with
    | none | some .documentEnd => add none .empty
    | some t => if isStart t then add none .empty else read true false fuel
  else read true false fuel

/-- Passes over marks of a document's end. If another document follows, its start is read, and then it
is refused. -/
def close : (fuel : Nat) → Reading Unit
  | 0 => refuse
  | fuel + 1 => do
    match ← peek? with
    | none => pure ()
    | some .documentEnd =>
      drop
      close fuel
    | some _ =>
      start fuel
      refuse

/-- The only document of some tokens, if there is one. Behind them comes the error of the text. -/
def ofTokens? (tokens : List Token) (failure : Option Error) : Except Error (Option Document) :=
  if tokens.isEmpty && failure.isNone then .ok none
  else
    let fuel := 4 * tokens.length + 8
    let reading : Reading Document := do
      let n ← readRoot fuel
      close fuel
      return ⟨(← get).nodes, n⟩
    (reading.run' ⟨tokens, failure, #[], [], standardHandles⟩).map some

end Document

end Hexscope.Yaml
