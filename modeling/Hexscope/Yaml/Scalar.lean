import Hexscope.Yaml.Cursor

/-!
# The text of scalars

A scalar is written plain, between apostrophes, between double quotes with escapes, or as a block of
lines. Inside the first three, a line end becomes a space, and blank lines become line feeds. A
block keeps its line ends if it is literal and joins its lines if it is folded. Each reader takes the
place where the scalar begins and yields its text and the place behind it.
-/

namespace Hexscope.Yaml.Scalar

/-- The line ends of blank lines. Inside quotes, documents may not be separated. -/
def blankLines : (fuel : Nat) → Cursor → Except Error (List Char × Cursor)
  | 0, _ => .error .malformed
  | fuel + 1, c =>
    if c.isAtSeparator then .error .malformed
    else do
      let c := c.skipWhile fun ch => ch = ' ' || ch = '\t'
      match c.lineBreak with
      | ([], c) => return ([], c)
      | (ends, c) =>
        let (more, c) ← blankLines fuel c
        return (ends ++ more, c)

/-- What a line end and the blank lines behind it stand for. -/
def fold (ends blank : List Char) : List Char :=
  if ends ≠ ['\n'] then ends ++ blank else if blank.isEmpty then [' '] else blank

/-- The spaces and line ends between the words of a quoted scalar. -/
def quotedSpaces (c : Cursor) : Except Error (List Char × Cursor) :=
  let (spaces, c) := c.span fun ch => ch = ' ' || ch = '\t'
  match c.peek? with
  | none => .error .unfinished
  | some ch =>
    if isBreak ch then do
      let (ends, c) := c.lineBreak
      let (blank, c) ← blankLines (c.rest.length + 1) c
      return (fold ends blank, c)
    else .ok (spaces, c)

/-- The characters that single letters stand for behind a backslash. -/
def escapes : List (Char × Nat) :=
  [('0', 0), ('a', 7), ('b', 8), ('t', 9), ('\t', 9), ('n', 10), ('v', 11), ('f', 12), ('r', 13),
   ('e', 27), (' ', 32), ('"', 34), ('\\', 92), ('/', 47), ('N', 0x85), ('_', 0xA0), ('L', 0x2028),
   ('P', 0x2029)]

/-- The number of hexadecimal digits behind the letter of a numeric escape. -/
def escapeWidth? (ch : Char) : Option Nat :=
  match ch with
  | 'x' => some 2
  | 'u' => some 4
  | 'U' => some 8
  | _ => none

/-- The code point of a numeric escape whose digits begin here. -/
def numericEscape (width : Nat) (c : Cursor) : Except Error (List CodePoint × Cursor) :=
  let digits := c.rest.take width
  match Radix.ofHex? digits with
  | none => .error .malformed
  | some code =>
    if digits.length < width then .error .unfinished
    else if CodePoint.last < code then .error (.noCharacter code)
    else .ok ([.ofNat code], c.skip width)

/-- The text of an escape, the cursor being behind the backslash. A line end is dropped together
with the blanks of the next line. -/
def escape (c : Cursor) : Except Error (List CodePoint × Cursor) :=
  match c.peek? with
  | none => .error .unfinished
  | some ch =>
    match escapes.lookup ch, escapeWidth? ch with
    | some code, _ => .ok ([.ofNat code], c.next)
    | none, some width => numericEscape width c.next
    | none, none =>
      if isBreak ch then do
        let (cs, c) ← blankLines (c.rest.length + 1) c.lineBreak.2
        return (cs.map .char, c)
      else .error .malformed

/-- The rest of a quoted scalar behind the reversed text `done`. -/
def quotedFrom (double : Bool) :
    (fuel : Nat) → (done : List CodePoint) → Cursor → Except Error (Text × Cursor)
  | 0, _, _ => .error .malformed
  | fuel + 1, done, c =>
    match c.peek? with
    | none => .error .unfinished
    | some ch =>
      if ch = ' ' ∨ ch = '\t' ∨ isBreak ch then do
        let (cs, c) ← quotedSpaces c
        quotedFrom double fuel (cs.reverse.map .char ++ done) c
      else if double then
        if ch = '"' then .ok (⟨done.reverse⟩, c.next)
        else if ch = '\\' then do
          let (ps, c) ← escape c.next
          quotedFrom double fuel (ps.reverse ++ done) c
        else quotedFrom double fuel (.char ch :: done) c.next
      else if ch = '\'' then
        if c.peekAt? 1 = some '\'' then quotedFrom double fuel (.char ch :: done) (c.skip 2)
        else .ok (⟨done.reverse⟩, c.next)
      else quotedFrom double fuel (.char ch :: done) c.next

/-- A quoted scalar, the cursor being at its opening quote. -/
def quoted (double : Bool) (c : Cursor) : Except Error (Text × Cursor) :=
  quotedFrom double (c.rest.length + 1) [] c.next

/-- The characters that have a meaning inside brackets. -/
def isFlowMark (ch : Char) : Bool :=
  ch = ',' || ch = '[' || ch = ']' || ch = '\x7b' || ch = '\x7d'

/-- Whether a word of a plain scalar ends before `ch`, which `behind` follows. -/
def endsPlain (inFlow : Bool) (ch : Char) (behind : Option Char) : Bool :=
  endsToken (some ch) ||
    (ch = ':' && (endsToken behind || (inFlow && behind.any isFlowMark))) ||
    (inFlow && (ch = '?' || isFlowMark ch))

/-- The length of the word at the start of a text. -/
def plainLength (inFlow : Bool) : List Char → Nat
  | [] => 0
  | ch :: cs => if endsPlain inFlow ch cs.head? then 0 else plainLength inFlow cs + 1

/-- The line ends of blank lines behind a line of a plain scalar, or nothing if documents are
separated there. -/
def plainBlankLines : (fuel : Nat) → Cursor → Option (List Char) × Cursor
  | 0, c => (none, c)
  | fuel + 1, c =>
    if c.isAtSeparator then (none, c)
    else
      let c := c.skipSpaces
      match c.lineBreak with
      | ([], c) => (some [], c)
      | (ends, c) =>
        let (more, c) := plainBlankLines fuel c
        (more.map (ends ++ ·), c)

/-- The spaces and line ends behind a word of a plain scalar. Nothing is there if the scalar ends.
The last part tells whether a line ended. -/
def plainSpaces (c : Cursor) : List Char × Cursor × Bool :=
  let (spaces, c) := c.span (· = ' ')
  match c.lineBreak with
  | ([], c) => (spaces, c, false)
  | (ends, c) =>
    match plainBlankLines (c.rest.length + 1) c with
    | (none, c) => ([], c, true)
    | (some blank, c) => (fold ends blank, c, true)

/-- The rest of a plain scalar whose text so far is `done`, behind the spaces `spaces`. -/
def plainFrom (inFlow : Bool) (indent : Int) :
    (fuel : Nat) → (done spaces : List Char) → (ended : Bool) → Cursor → List Char × Cursor × Bool
  | 0, done, _, ended, c => (done, c, ended)
  | fuel + 1, done, spaces, ended, c =>
    let length := plainLength inFlow c.rest
    if c.isAt '#' || length = 0 then (done, c, ended)
    else
      let done := done ++ spaces ++ c.rest.take length
      let (spaces, c, ended) := plainSpaces (c.skip length)
      if spaces.isEmpty || c.isAt '#' || (!inFlow && (c.column : Int) < indent) then
        (done, c, ended)
      else plainFrom inFlow indent fuel done spaces ended c

/-- A plain scalar in a block that is indented by `indent`. The last part tells whether the scalar
was ended by the end of a line. -/
def plain (inFlow : Bool) (indent : Int) (c : Cursor) : Text × Cursor × Bool :=
  let (cs, c, ended) := plainFrom inFlow (indent + 1) (c.rest.length + 1) [] [] false c
  (.ofChars cs, c, ended)

/-- What becomes of the line ends at the end of a block. -/
inductive Chomping where
  /-- None is kept. -/
  | strip
  /-- One is kept. -/
  | clip
  /-- All are kept. -/
  | keep
deriving DecidableEq, Repr

/-- The chomping mark here. -/
def chomping? (c : Cursor) : Option Chomping :=
  match c.peek? with
  | some '+' => some .keep
  | some '-' => some .strip
  | _ => none

/-- The indentation mark here, a digit. -/
def indentation? (c : Cursor) : Option Nat :=
  match c.peek? with
  | some ch => if ch.isDigit then some (ch.toNat - 48) else none
  | none => none

/-- The marks of a block, in either order, and the rest of its first line. -/
def header (c : Cursor) : Except Error (Chomping × Option Nat × Cursor) := do
  let (chomping, increment, c) := match chomping? c with
    | some m =>
      match indentation? c.next with
      | some n => (m, some n, c.skip 2)
      | none => (m, none, c.next)
    | none =>
      match indentation? c with
      | some n =>
        match chomping? c.next with
        | some m => (m, some n, c.skip 2)
        | none => (.clip, some n, c.next)
      | none => (.clip, none, c)
  if increment = some 0 ∨ !endsWord c.peek? then throw .malformed
  return (chomping, increment, ← c.endLine)

/-- The line ends before the first line of a block, and its indentation: the widest one of the
lines up to it. -/
def indentation : (fuel : Nat) → (widest : Nat) → Cursor → List Char × Nat × Cursor
  | 0, widest, c => ([], widest, c)
  | fuel + 1, widest, c =>
    let c := c.skipSpaces
    let widest := max widest c.column
    match c.lineBreak with
    | ([], c) => ([], widest, c)
    | (ends, c) =>
      let (more, widest, c) := indentation fuel widest c
      (ends ++ more, widest, c)

/-- The place behind at most the spaces of an indentation. -/
def skipIndent (indent : Nat) (c : Cursor) : Cursor :=
  let spaces := (c.span (· = ' ')).1.length
  c.skip (min spaces (indent - c.column))

/-- The line ends of blank lines inside a block. -/
def blockBlankLines (indent : Nat) : (fuel : Nat) → Cursor → List Char × Cursor
  | 0, c => ([], c)
  | fuel + 1, c =>
    let c := skipIndent indent c
    match c.lineBreak with
    | ([], c) => ([], c)
    | (ends, c) =>
      let (more, c) := blockBlankLines indent fuel c
      (ends ++ more, c)

/-- Whether a line of a folded block begins with a word, so that it is joined to others. -/
def startsWord (c : Cursor) : Bool := !(c.isAt ' ' || c.isAt '\t')

/-- The lines of a block, with the line ends behind them: the last one, and those of blank lines. -/
def blockFrom (folded : Bool) (indent : Nat) :
    (fuel : Nat) → (done ends blank : List Char) → Cursor →
      List Char × List Char × List Char × Cursor
  | 0, done, ends, blank, c => (done, ends, blank, c)
  | fuel + 1, done, ends, blank, c =>
    if c.column ≠ indent ∨ c.peek?.isNone then (done, ends, blank, c)
    else
      let word := startsWord c
      let (line, c) := c.span (!isBreak ·)
      let done := done ++ blank ++ line
      let (ends, c) := c.lineBreak
      let (blank, c) := blockBlankLines indent (c.rest.length + 1) c
      if c.column = indent ∧ c.peek?.isSome then
        let joint :=
          if folded && ends = ['\n'] && word && startsWord c then
            if blank.isEmpty then [' '] else []
          else ends
        blockFrom folded indent fuel (done ++ joint) [] blank c
      else (done, ends, blank, c)

/-- A block scalar in a block that is indented by `parent`, the cursor being at its mark. -/
def block (folded : Bool) (parent : Int) (c : Cursor) : Except Error (Text × Cursor) := do
  let (chomping, increment, c) ← header c.next
  let least := (max 1 (parent + 1)).toNat
  let (blank, indent, c) := match increment with
    | some n =>
      let indent := least + n - 1
      let (blank, c) := blockBlankLines indent (c.rest.length + 1) c
      (blank, indent, c)
    | none =>
      let (blank, widest, c) := indentation (c.rest.length + 1) 0 c
      (blank, max least widest, c)
  let (text, ends, blank, c) := blockFrom folded indent (c.rest.length + 1) [] [] blank c
  let kept := match chomping with
    | .strip => []
    | .clip => ends
    | .keep => ends ++ blank
  return (.ofChars (text ++ kept), c)

end Hexscope.Yaml.Scalar
