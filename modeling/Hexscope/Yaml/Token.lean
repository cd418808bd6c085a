import Hexscope.Yaml.Scalar

/-!
# Tokens of a document

`Token.ofText` divides a text into tokens. Indentation becomes tokens of its own: a collection in
block form starts where its first entry is indented further than its surroundings, and ends before
the first line that is not. The key of a mapping is known as such only at the colon behind it, so a
token that may begin a key is remembered as pending, and the colon puts the key mark in front of it.
A pending key must lie on one line and within 1024 characters.
-/

namespace Hexscope.Yaml

/-- The parts of a document. -/
inductive Token where
  /-- The version of the language, of which the first number counts. -/
  | version (major : Int)
  /-- A short form for tags. -/
  | tagHandle (handle : String) (start : String)
  /-- A directive without meaning. -/
  | otherDirective
  | documentStart
  | documentEnd
  | blockSequence
  | blockMapping
  | blockEnd
  | flowSequence
  | flowSequenceEnd
  | flowMapping
  | flowMappingEnd
  | flowEntry
  | blockEntry
  | key
  | value
  | alias (name : String)
  | anchor (name : String)
  | tag (handle : Option String) (suffix : String)
  | scalar (text : Text) (plain : Bool)
deriving DecidableEq, Repr

namespace Token

/-- A token that a colon may turn into a key. -/
structure Pending where
  /-- How many tokens come before it. -/
  place : Nat
  /-- Whether it stands where only a key may stand. -/
  required : Bool
  index : Nat
  line : Nat
  column : Nat
deriving Repr

/-- How far a text has been divided. -/
structure Division where
  cursor : Cursor
  tokens : Array Token
  /-- How many brackets are open. -/
  flow : Nat
  /-- The indentation of the innermost block. -/
  indent : Int
  /-- The indentations around it. -/
  outer : List Int
  /-- Whether a key may stand here. -/
  allowKey : Bool
  /-- The pending keys by the number of open brackets. -/
  pending : List (Nat × Pending)

namespace Division

/-- The text as a whole. -/
def ofText (cs : List Char) : Division :=
  ⟨.ofText cs, #[], 0, -1, [], true, []⟩

/-- Whether a bracket is open. -/
def inFlow (d : Division) : Bool := d.flow ≠ 0

/-- Adds a token and goes to the place behind it. -/
def add (d : Division) (t : Token) (c : Cursor) : Division :=
  { d with tokens := d.tokens.push t, cursor := c }

/-- Pending keys that have become impossible are dropped. -/
def dropStale (d : Division) : Except Error Division := do
  let isStale (p : Nat × Pending) : Bool :=
    p.2.line ≠ d.cursor.line || p.2.index + 1024 < d.cursor.index
  if d.pending.any fun p => isStale p && p.2.required then throw .malformed
  return { d with pending := d.pending.filter (!isStale ·) }

/-- The pending key at this depth is no key. -/
def dropPending (d : Division) : Except Error Division := do
  if d.pending.any fun p => p.1 = d.flow && p.2.required then throw .malformed
  return { d with pending := d.pending.filter (·.1 ≠ d.flow) }

/-- The next token may be a key. -/
def savePending (d : Division) : Except Error Division := do
  if !d.allowKey then return d
  let c := d.cursor
  let required := !d.inFlow && d.indent = c.column
  let d ← d.dropPending
  return { d with
    pending := (d.flow, ⟨d.tokens.size, required, c.index, c.line, c.column⟩) :: d.pending }

/-- Ends the blocks that are indented further than a column. -/
def unwindWith (column : Int) (d : Division) : List Int → Division
  | [] => d
  | i :: outer =>
    if column < d.indent then
      unwindWith column { d with
        tokens := d.tokens.push .blockEnd, indent := i, outer } outer
    else d

/-- Ends the blocks that are indented further than a column, unless a bracket is open. -/
def unwind (d : Division) (column : Int) : Division :=
  if d.inFlow then d else unwindWith column d d.outer

/-- Starts a block at a column if that is further than the indentation. -/
def openBlock (d : Division) (column : Nat) (t : Token) (place : Nat) : Division :=
  if !d.inFlow && d.indent < column then
    { d with
      outer := d.indent :: d.outer
      indent := column
      tokens := d.tokens.insertIdxIfInBounds place t }
  else d

/-- The place behind spaces, comments and line ends. A key may stand at the start of a line. -/
def toNext : (fuel : Nat) → Division → Division
  | 0, d => d
  | fuel + 1, d =>
    let c := d.cursor.skipSpaces
    let c := if c.isAt '#' then c.skipLine else c
    match c.lineBreak with
    | ([], c) => { d with cursor := c }
    | (_, c) => toNext fuel { d with cursor := c, allowKey := d.allowKey || !d.inFlow }

/-- The characters of names: ASCII letters and digits, hyphens and underscores. -/
def isNameChar (ch : Char) : Bool := ch.isAlphanum || ch = '-' || ch = '_'

/-- The name here, which may not be empty. -/
def name (c : Cursor) : Except Error (String × Cursor) :=
  let (cs, c) := c.span isNameChar
  if cs.isEmpty then .error .malformed else .ok (String.ofList cs, c)

/-- A number in decimal. -/
def number (c : Cursor) : Except Error (Int × Cursor) := do
  let (cs, c) := c.span Char.isDigit
  if cs.isEmpty then throw .malformed
  return (← (Text.Integer.read 10 (.ofChars cs)).mapError .badInteger, c)

/-- The bytes of escaped characters in a tag, which must be text. -/
def tagEscapes : (fuel : Nat) → Cursor → Except Error (List UInt8 × Cursor)
  | 0, _ => .error .malformed
  | fuel + 1, c =>
    if c.isAt '%' then
      match Radix.ofHex? ((c.rest.drop 1).take 2), (c.peekAt? 2).isSome with
      | some code, true => do
        let (more, c) ← tagEscapes fuel (c.skip 3)
        return (UInt8.ofNat code :: more, c)
      | _, _ => .error .malformed
    else .ok ([], c)

/-- Whether a character may stand in a tag as it is. -/
def isTagChar (ch : Char) : Bool :=
  isNameChar ch || ";/?:@&=+$,.!~*'()[]".toList.contains ch

/-- The text of a tag. -/
def tagTextFrom : (fuel : Nat) → Cursor → Except Error (String × Cursor)
  | 0, _ => .error .malformed
  | fuel + 1, c =>
    let (cs, c) := c.span isTagChar
    let text := String.ofList cs
    if c.isAt '%' then do
      let (bytes, c) ← tagEscapes (c.rest.length + 1) c
      match String.fromUTF8? ⟨bytes.toArray⟩ with
      | none => throw .malformed
      | some s =>
        let (more, c) ← tagTextFrom fuel c
        return (text ++ s ++ more, c)
    else .ok (text, c)

/-- The text of a tag, which may not be empty. -/
def tagText (c : Cursor) : Except Error (String × Cursor) := do
  let (text, c) ← tagTextFrom (c.rest.length + 1) c
  if text.isEmpty then throw .malformed
  return (text, c)

/-- The handle of a tag: one exclamation mark, two, or a name between two. -/
def tagHandleAt (c : Cursor) : Except Error (String × Cursor) :=
  if !c.isAt '!' then .error .malformed
  else if c.peekAt? 1 = some ' ' then .ok ("!", c.next)
  else
    let (cs, d) := c.next.span isNameChar
    if d.isAt '!' then .ok (String.ofList ('!' :: cs ++ ['!']), d.next) else .error .malformed

/-- A line that begins with a percent sign. -/
def directive (c : Cursor) : Except Error (Token × Cursor) := do
  let (word, c) ← name c.next
  if !endsWord c.peek? then throw .malformed
  match word with
  | "YAML" =>
    let (major, c) ← number c.skipSpaces
    if !c.isAt '.' then throw .malformed
    let (_, c) ← number c.next
    if !endsWord c.peek? then throw .malformed
    return (.version major, ← c.endLine)
  | "TAG" =>
    let (handle, c) ← tagHandleAt c.skipSpaces
    if !c.isAt ' ' then throw .malformed
    let (start, c) ← tagText c.skipSpaces
    if !endsWord c.peek? then throw .malformed
    return (.tagHandle handle start, ← c.endLine)
  | _ => return (.otherDirective, ← c.skipLine.endLine)

/-- The name of an anchor or alias behind its mark. -/
def anchorName (c : Cursor) : Except Error (String × Cursor) := do
  let (word, c) ← name c.next
  let isEnd (ch : Char) : Bool := "?:,]\x7d%@".toList.contains ch || ch.toNat = 96
  if endsToken c.peek? || c.peek?.any isEnd then return (word, c) else throw .malformed

/-- A tag. -/
def tagAt (c : Cursor) : Except Error (Token × Cursor) := do
  let (t, c) ← if c.peekAt? 1 = some '<' then do
      let (text, c) ← tagText (c.skip 2)
      if !c.isAt '>' then throw .malformed
      pure (Token.tag none text, c.next)
    else if endsToken (c.peekAt? 1) then
      pure (Token.tag none "!", c.next)
    else do
      let word := c.next.rest.takeWhile fun ch => !endsWord (some ch)
      let (handle, c) ← if word.contains '!' then tagHandleAt c else pure ("!", c.next)
      let (text, c) ← tagText c
      pure (Token.tag (some handle) text, c)
  if endsWord c.peek? then return (t, c) else throw .malformed

/-- A directive or a mark between documents ends all blocks. -/
def betweenDocuments (d : Division) : Except Error Division := do
  let d ← (d.unwind (-1)).dropPending
  return { d with allowKey := false }

/-- An opening bracket. -/
def openFlow (d : Division) (t : Token) : Except Error Division := do
  let d ← d.savePending
  return { d with flow := d.flow + 1, allowKey := true }.add t d.cursor.next

/-- A closing bracket. -/
def closeFlow (d : Division) (t : Token) : Except Error Division := do
  let d ← d.dropPending
  if d.flow = 0 then throw .malformed
  return { d with flow := d.flow - 1, allowKey := false }.add t d.cursor.next

/-- A comma. -/
def flowEntry (d : Division) : Except Error Division := do
  let d ← d.dropPending
  return { d with allowKey := true }.add .flowEntry d.cursor.next

/-- A hyphen before an entry of a sequence. -/
def blockEntry (d : Division) : Except Error Division := do
  if !d.inFlow && !d.allowKey then throw .malformed
  let d ← (d.openBlock d.cursor.column .blockSequence d.tokens.size).dropPending
  return { d with allowKey := true }.add .blockEntry d.cursor.next

/-- A question mark before a key. -/
def explicitKey (d : Division) : Except Error Division := do
  if !d.inFlow && !d.allowKey then throw .malformed
  let d ← (d.openBlock d.cursor.column .blockMapping d.tokens.size).dropPending
  return { d with allowKey := !d.inFlow }.add .key d.cursor.next

/-- A colon before a value. -/
def value (d : Division) : Except Error Division := do
  match d.pending.find? (·.1 = d.flow) with
  | some (_, p) =>
    let d := { d with
      pending := d.pending.filter (·.1 ≠ d.flow)
      tokens := d.tokens.insertIdxIfInBounds p.place .key
      allowKey := false }
    return (d.openBlock p.column .blockMapping p.place).add .value d.cursor.next
  | none =>
    if !d.inFlow && !d.allowKey then throw .malformed
    let d ← (d.openBlock d.cursor.column .blockMapping d.tokens.size).dropPending
    return { d with allowKey := !d.inFlow }.add .value d.cursor.next

/-- A token that may begin a key. -/
def node (d : Division) (read : Cursor → Except Error (Token × Cursor)) :
    Except Error Division := do
  let d ← d.savePending
  let (t, c) ← read d.cursor
  return { d with allowKey := false }.add t c

/-- A block scalar. -/
def blockScalar (d : Division) (folded : Bool) : Except Error Division := do
  let d ← d.dropPending
  let (text, c) ← Scalar.block folded d.indent d.cursor
  return { d with allowKey := true }.add (.scalar text false) c

/-- A quoted scalar. -/
def quotedScalar (d : Division) (double : Bool) : Except Error Division :=
  d.node fun c => do
    let (text, c) ← Scalar.quoted double c
    return (.scalar text false, c)

/-- A plain scalar. -/
def plainScalar (d : Division) : Except Error Division := do
  let d ← d.savePending
  let (text, c, ended) := Scalar.plain d.inFlow d.indent d.cursor
  return { d with allowKey := ended }.add (.scalar text true) c

/-- Whether a plain scalar may begin with a character. -/
def startsPlain (inFlow : Bool) (ch : Char) (behind : Option Char) : Bool :=
  !(endsToken (some ch) || "-?:,[]\x7b\x7d#&*!|>'\"%@".toList.contains ch || ch.toNat = 96) ||
    (!endsToken behind && (ch = '-' || (!inFlow && (ch = '?' || ch = ':'))))

/-- Reads the token that begins with a character. -/
def token (d : Division) (ch : Char) : Except Error Division := do
  let c := d.cursor
  let behind := c.peekAt? 1
  let separates (mark : Char) : Bool := ch = mark && c.column = 0 && c.isAtSeparator
  if ch = '%' && c.column = 0 then
    let d ← d.betweenDocuments
    let (t, c) ← directive c
    return d.add t c
  else if separates '-' then return (← d.betweenDocuments).add .documentStart (c.skip 3)
  else if separates '.' then return (← d.betweenDocuments).add .documentEnd (c.skip 3)
  else if ch = '[' then d.openFlow .flowSequence
  else if ch = '\x7b' then d.openFlow .flowMapping
  else if ch = ']' then d.closeFlow .flowSequenceEnd
  else if ch = '\x7d' then d.closeFlow .flowMappingEnd
  else if ch = ',' then d.flowEntry
  else if ch = '-' && endsToken behind then d.blockEntry
  else if ch = '?' && (d.inFlow || endsToken behind) then d.explicitKey
  else if ch = ':' && (d.inFlow || endsToken behind) then d.value
  else if ch = '*' then d.node fun c => do
    let (word, c) ← anchorName c
    return (.alias word, c)
  else if ch = '&' then d.node fun c => do
    let (word, c) ← anchorName c
    return (.anchor word, c)
  else if ch = '!' then d.node tagAt
  else if ch = '|' && !d.inFlow then d.blockScalar false
  else if ch = '>' && !d.inFlow then d.blockScalar true
  else if ch = '\'' then d.quotedScalar false
  else if ch = '"' then d.quotedScalar true
  else if startsPlain d.inFlow ch behind then d.plainScalar
  else throw .malformed

/-- The tokens that are what they are whatever follows: those before the first pending key. -/
def settled (d : Division) : List Token :=
  let isLive (p : Nat × Pending) : Bool :=
    p.2.line = d.cursor.line && d.cursor.index ≤ p.2.index + 1024
  let places := (d.pending.filter isLive).map (·.2.place)
  (d.tokens.take (places.foldl min d.tokens.size)).toList

/-- The next token, or nothing at the end of the text. -/
def step (d : Division) : Except Error (Option Division) := do
  let d ← (d.toNext (d.cursor.rest.length + 1)).dropStale
  let d := d.unwind d.cursor.column
  match d.cursor.peek? with
  | none => return none
  | some ch => return some (← d.token ch)

/-- The end of a text. -/
def close (d : Division) : Except Error Division := do
  let d ← (d.toNext (d.cursor.rest.length + 1)).dropStale
  (d.unwind (-1)).dropPending

/-- Divides the rest of a text: its tokens up to the place where it is wrong, and the error there. If there
is an error behind the text, a token that may depend on what comes there is not reached. -/
def finish (behind : Option Error) : (fuel : Nat) → Division → List Token × Option Error
  | 0, d => (d.settled, some .malformed)
  | fuel + 1, d =>
    match d.step with
    | .ok (some next) =>
      if behind.isSome && next.cursor.isNearEnd then (d.settled, behind) else finish behind fuel next
    | .ok none =>
      if behind.isSome then (d.settled, behind)
      else
        match d.close with
        | .ok d => (d.tokens.toList, none)
        | .error e => (d.settled, some e)
    | .error .unfinished => (d.settled, some (behind.getD .unfinished))
    | .error e => (d.settled, some e)

end Division

/-- The tokens of a text up to the place where it is wrong, and the error there, which may be one behind
the text. A byte order mark at the start of the text is passed over. -/
def ofText (cs : List Char) (behind : Option Error) : List Token × Option Error :=
  let cs := match cs with
    | ch :: rest => if ch = byteOrderMark then rest else ch :: rest
    | [] => []
  (Division.ofText cs).finish behind (cs.length + 1)

end Token

end Hexscope.Yaml
