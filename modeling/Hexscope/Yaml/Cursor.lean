import Hexscope.Yaml.Error

/-!
# Positions in a document

A cursor is a place in the text of a document: the characters still to come, how many have passed,
and the line and column. Line ends are line feeds, next line marks, and the line and paragraph
separators. A byte order mark takes no column.
-/

namespace Hexscope.Yaml

/-- Whether a character ends a line. -/
def isBreak (c : Char) : Bool :=
  c = '\n' || c.toNat = 0x85 || c.toNat = 0x2028 || c.toNat = 0x2029

/-- The mark at the start of a text that tells its byte order. -/
def byteOrderMark : Char := Char.ofNat 0xFEFF

/-- Whether a place in the text is the end of a line: a line end, or nothing. -/
def endsLine : Option Char → Bool
  | none => true
  | some c => isBreak c

/-- Whether a place in the text is a space or the end of a line. -/
def endsWord : Option Char → Bool
  | none => true
  | some c => c = ' ' || isBreak c

/-- Whether a place in the text is a space, a tab or the end of a line. -/
def endsToken : Option Char → Bool
  | none => true
  | some c => c = ' ' || c = '\t' || isBreak c

/-- A place in a text. -/
structure Cursor where
  rest : List Char
  index : Nat
  line : Nat
  column : Nat
deriving Repr

namespace Cursor

/-- The start of a text. -/
def ofText (cs : List Char) : Cursor := ⟨cs, 0, 0, 0⟩

/-- The character here. -/
def peek? (c : Cursor) : Option Char := c.rest.head?

/-- The character `n` places further on. -/
def peekAt? (c : Cursor) (n : Nat) : Option Char := c.rest[n]?

/-- Whether the character here is `ch`. -/
def isAt (c : Cursor) (ch : Char) : Bool := c.peek? = some ch

/-- The next place. -/
def next (c : Cursor) : Cursor :=
  match c.rest with
  | [] => c
  | ch :: cs =>
    if isBreak ch then ⟨cs, c.index + 1, c.line + 1, 0⟩
    else ⟨cs, c.index + 1, c.line, if ch = byteOrderMark then c.column else c.column + 1⟩

/-- The place `n` characters further on. -/
def skip (c : Cursor) : Nat → Cursor
  | 0 => c
  | n + 1 => c.next.skip n

/-- The characters from here on that satisfy a condition, and the place behind them. -/
def span (c : Cursor) (p : Char → Bool) : List Char × Cursor :=
  let cs := c.rest.takeWhile p
  (cs, c.skip cs.length)

/-- The place behind the characters that satisfy a condition. -/
def skipWhile (c : Cursor) (p : Char → Bool) : Cursor := (c.span p).2

/-- The place behind spaces. -/
def skipSpaces (c : Cursor) : Cursor := c.skipWhile (· = ' ')

/-- The end of this line. -/
def skipLine (c : Cursor) : Cursor := c.skipWhile (!isBreak ·)

/-- The line end here, if there is one, and the place behind it. Separators keep their form and
other line ends become line feeds. -/
def lineBreak (c : Cursor) : List Char × Cursor :=
  match c.peek? with
  | some ch =>
    if isBreak ch then ([if ch.toNat = 0x85 then '\n' else ch], c.next) else ([], c)
  | none => ([], c)

/-- Whether so little follows that what stands here may depend on what comes behind it: a mark of three
characters and the one behind it do not fit. -/
def isNearEnd (c : Cursor) : Bool := (c.rest.drop 3).isEmpty

/-- Whether three hyphens or three points stand here that separate documents. -/
def isAtSeparator (c : Cursor) : Bool :=
  (c.rest.take 3 = ['-', '-', '-'] || c.rest.take 3 = ['.', '.', '.']) && endsToken (c.peekAt? 3)

/-- Passes over spaces and a comment, which must reach to the end of the line. -/
def endLine (c : Cursor) : Except Error Cursor :=
  let c := c.skipSpaces
  let c := if c.isAt '#' then c.skipLine else c
  if endsLine c.peek? then .ok c.lineBreak.2 else .error .malformed

theorem length_next_le (c : Cursor) : c.next.rest.length ≤ c.rest.length := by
  unfold next
  split
  · simp
  · rename_i h
    split <;> simp [h]

end Cursor

end Hexscope.Yaml
