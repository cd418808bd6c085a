import Hexscope.Text.Ranges
import Hexscope.Text.Utf8
import Hexscope.Yaml.Error

/-!
# The text of a file, block by block

A file is decoded in chunks of bytes and handed out in blocks of characters, in which every line end is a
line feed. A chunk is refused if it is no text, and a block if it has a character that a document may not
hold. The first two blocks are read together, and every other one only when it is needed, so an error may
lie behind a text that is known already (`Blocks.known`). Whoever looks behind that text meets the error.
-/

namespace Hexscope.Yaml

/-- The characters that a document may hold: those that can be printed, tabs and line ends. -/
def allowed : Text.Ranges :=
  [(0x09, 0x0A), (0x0D, 0x0D), (0x20, 0x7E), (0x85, 0x85), (0xA0, 0xD7FF), (0xE000, 0xFFFD),
   (0x10000, 0x10FFFF)]

/-- The text with a line feed for every carriage return, also for one with a line feed behind it. -/
def unifyLines : List Char → List Char
  | '\r' :: '\n' :: cs => '\n' :: unifyLines cs
  | c :: cs => (if c = '\r' then '\n' else c) :: unifyLines cs
  | [] => []

/-- How far a file has been read. -/
structure Blocks where
  /-- The bytes that have not been read. -/
  bytes : List UInt8
  /-- The character that the bytes so far leave open. -/
  opened : Option Text.Utf8.Opened
  /-- Whether a carriage return waits for the character behind it. -/
  waits : Bool
  /-- The characters that have been decoded and not handed out. -/
  ready : List Char
  /-- The numbers of bytes and of characters of the last chunk. -/
  last : Nat × Nat
deriving Repr

namespace Blocks

/-- A file of which nothing has been read. -/
def ofBytes (bytes : List UInt8) : Blocks := ⟨bytes, none, false, [], (0, 0)⟩

/-- The number of characters of a block. -/
def blockSize : Nat := 4096

/-- The least number of bytes of a chunk. -/
def chunkSize : Nat := 8192

/-- The number of bytes in which some characters are expected, as many for each as in the last chunk. -/
def expected (b : Blocks) (wanted : Nat) : Nat :=
  if b.last.2 = 0 then wanted else max wanted (b.last.1 * wanted / b.last.2)

/-- Reads the chunk in which some characters are expected. Behind the last one comes an empty chunk, at
which nothing may be open. A carriage return at the end of a chunk waits for the next one. -/
def readChunk (b : Blocks) (wanted : Nat) : Except Error Blocks :=
  let chunk := b.bytes.take (max chunkSize (b.expected wanted))
  match Text.Utf8.decode b.opened chunk with
  | none => .error .notText
  | some (cs, opened) =>
    if chunk.isEmpty && opened.isSome then .error .notText
    else
      let cs := if b.waits then '\r' :: cs else cs
      let waits := !chunk.isEmpty && cs.getLast? = some '\r'
      let cs := unifyLines (if waits then cs.dropLast else cs)
      .ok ⟨b.bytes.drop chunk.length, opened, waits, b.ready ++ cs, (chunk.length, cs.length)⟩

/-- Reads chunks until some characters are ready or the file has ended. -/
def fill (wanted : Nat) : (fuel : Nat) → Blocks → Except Error Blocks
  | 0, b => .ok b
  | fuel + 1, b =>
    if wanted ≤ b.ready.length then .ok b
    else do
      let c ← b.readChunk (wanted - b.ready.length)
      if c.last = (0, 0) then return c
      fill wanted fuel c

/-- Reads a block, which is shorter or empty at the end of the file. -/
def readBlock (b : Blocks) : Except Error (List Char × Blocks) := do
  let b ← b.fill blockSize (b.bytes.length + 2)
  return (b.ready.take blockSize, { b with ready := b.ready.drop blockSize })

/-- Refuses characters that a document may not hold. -/
def check (cs : List Char) : Except Error Unit :=
  if cs.all fun c => allowed.contains c.toNat then .ok () else .error .malformed

/-- The first two blocks. -/
def readFirst (b : Blocks) : Except Error (List Char × Blocks) := do
  let (first, b) ← b.readBlock
  let (second, b) ← b.readBlock
  let cs := first ++ second
  check cs
  return (cs, b)

/-- The text behind `cs` up to the block that is refused, and the error there. -/
def knownFrom (cs : List Char) : (fuel : Nat) → Blocks → List Char × Option Error
  | 0, _ => (cs, none)
  | fuel + 1, b =>
    match b.readBlock with
    | .error e => (cs, some e)
    | .ok (block, b) =>
      if block.isEmpty then (cs, none)
      else
        match check block with
        | .error e => (cs, some e)
        | .ok () => knownFrom (cs ++ block) fuel b

/-- The text of a file up to the block that is refused, and the error there. -/
def known (bytes : List UInt8) : List Char × Option Error :=
  match (ofBytes bytes).readFirst with
  | .error e => ([], some e)
  | .ok (cs, b) => knownFrom cs (bytes.length + 1) b

end Blocks

end Hexscope.Yaml
