import Hexscope.Text
import Hexscope.Text.DecimalDigit

/-!
# The command line

The words of a command line are options and plain words. An option may be shortened to any beginning
that fits no other one, and its value is the next plain word, or stands behind an equals sign. The
first plain word that no option takes names the program file. Behind a separator `--` every word is
plain.

All words are sorted first (`Word.ofText`), so a shortened option that fits several ones is refused
before anything else. Then they are read in order, and a call for help ends the reading at once.
Words that are left over are refused only at the end.
-/

namespace Hexscope.CommandLine

/-- Why the program does not start. -/
inductive Refusal where
  /-- Help was asked for. -/
  | help
  /-- The command line is wrong. -/
  | misuse
deriving DecidableEq, Repr

/-- The exit code of a program that does not start. -/
def Refusal.code : Refusal → Nat
  | .help => 0
  | .misuse => 2

/-- The word behind which every word is plain. -/
def separator : Text := "--"

/-- What an option is given. -/
inductive Given where
  | text (s : Text)
  /-- A separator in the same word, which does not count as a value. -/
  | nothing
deriving DecidableEq, Repr

/-- The value behind an equals sign. -/
def Given.ofText (value : Text) : Given := if value = separator then .nothing else .text value

/-- What the command line says. -/
structure Arguments where
  rom : Option Text
  config : Option Given
  logLevel : Given
deriving DecidableEq, Repr

/-- What an empty command line says. -/
def Arguments.standard : Arguments := ⟨none, none, .text "WARNING"⟩

/-- The levels of the log. -/
def logLevels : List String := ["DEBUG", "INFO", "WARNING", "ERROR"]

/-! ## Words -/

/-- What an option sets. -/
inductive Setting where
  | config
  | logLevel
deriving DecidableEq, Repr

/-- What a word of the command line is. -/
inductive Word where
  | plain (text : Text)
  | separator
  /-- A call for help, and what comes of it. -/
  | help (outcome : Refusal)
  /-- An option, with its value if that stands in the same word. -/
  | option (setting : Setting) (value : Option Given)
  /-- A word in the form of an option that is none. -/
  | unknown
deriving DecidableEq, Repr

/-- The names of the options with a value. -/
def settings : List (Text × Setting) := [("--config", .config), ("--log-level", .logLevel)]

/-- The options written in full, with a value if one stands in the same word. A call for help takes
none. -/
def longOptions (value : Option Text) : List (Text × Word) :=
  ("--help", .help (if value.isSome then .misuse else .help)) ::
    settings.map fun s => (s.1, .option s.2 (value.map .ofText))

/-- What comes of the letter that calls for help, given what stands behind it in its word. The same
letter again does no harm, also behind an equals sign, and everything else does. -/
def helpOutcome (behind : List CodePoint) : Refusal :=
  let calls (ps : List CodePoint) : Refusal := if ps.all (· = .char 'h') then .help else .misuse
  match behind with
  | [] => .help
  | [.char '='] => .misuse
  | .char '=' :: ps => calls ps
  | ps => calls ps

/-- The part before the first equals sign, and the part behind it if there is one. -/
def splitEquals (word : Text) : Text × Option Text :=
  match word.points.span (· ≠ .char '=') with
  | (name, _ :: value) => (⟨name⟩, some ⟨value⟩)
  | (name, []) => (⟨name⟩, none)

/-- Whether all code points are decimal digits. -/
def areDigits (ps : List CodePoint) : Bool :=
  ps.all fun p => (p.char?.bind Text.DecimalDigit.value?).isSome

/-- Whether what follows a minus sign is a number, in digits with or without a point. -/
def isMagnitude (ps : List CodePoint) : Bool :=
  let ps := if ps.getLast? = some (.char '\n') then ps.dropLast else ps
  match ps.span (· ≠ .char '.') with
  | (whole, []) => !whole.isEmpty && areDigits whole
  | (whole, _ :: places) => areDigits whole && !places.isEmpty && areDigits places

/-- A word with a hyphen that names no option. Negative numbers and words with spaces are plain. -/
def Word.ofUnnamed (word : Text) : Word :=
  if isMagnitude (word.points.drop 1) || word.has ' ' then .plain word else .unknown

/-- A word with two hyphens: the option with this name, or the only one whose name begins so. -/
def Word.ofLong (word : Text) : Except Refusal Word :=
  let (name, value) := splitEquals word
  match (longOptions value).lookup name with
  | some w => .ok w
  | none =>
    match (longOptions value).filter (name.points.isPrefixOf ·.1.points) with
    | [] => .ok (ofUnnamed word)
    | [o] => .ok o.2
    | _ => .error .misuse

/-- A word before the separator. -/
def Word.ofText (word : Text) : Except Refusal Word :=
  match word.points with
  | .char '-' :: .char '-' :: _ => ofLong word
  | .char '-' :: .char 'h' :: ps => .ok (.help (helpOutcome ps))
  | .char '-' :: _ :: _ => .ok (ofUnnamed word)
  | _ => .ok (.plain word)

/-- Sorts the words. -/
def Word.ofTexts : List Text → Except Refusal (List Word)
  | [] => .ok []
  | word :: rest =>
    if word = CommandLine.separator then .ok (.separator :: rest.map .plain)
    else do return (← ofText word) :: (← ofTexts rest)

/-! ## Reading -/

/-- What was read so far. -/
structure Reading where
  arguments : Arguments
  /-- Whether a word was left over. -/
  surplus : Bool
deriving DecidableEq, Repr

namespace Reading

/-- A word is left over. -/
def leave (r : Reading) : Reading := { r with surplus := true }

/-- Reads a plain word: the program file, unless it is known. -/
def plain (r : Reading) (text : Text) : Reading :=
  if r.arguments.rom.isSome then r.leave
  else { r with arguments := { r.arguments with rom := some text } }

/-- Whether an option may be given a value. -/
def accepts : Setting → Given → Bool
  | .logLevel, .text value => value.string?.any logLevels.contains
  | _, _ => true

/-- Reads the value of an option. -/
def set (r : Reading) (s : Setting) (value : Given) : Except Refusal Reading :=
  if !accepts s value then .error .misuse
  else
    match s with
    | .config => .ok { r with arguments := { r.arguments with config := some value } }
    | .logLevel => .ok { r with arguments := { r.arguments with logLevel := value } }

/-- Reads the words in order. The separator belongs to the program file, before or behind it. -/
def read (r : Reading) : List Word → Except Refusal Reading
  | [] => .ok r
  | .plain text :: .separator :: ws =>
    if r.arguments.rom.isSome then read r.leave ws else read (r.plain text) ws
  | .plain text :: ws => read (r.plain text) ws
  | .separator :: ws => if r.arguments.rom.isSome then read r.leave ws else read r ws
  | .unknown :: ws => read r.leave ws
  | .help outcome :: _ => .error outcome
  | .option s (some value) :: ws => do read (← r.set s value) ws
  | .option s none :: .plain value :: ws => do read (← r.set s (.text value)) ws
  | .option _ none :: _ => .error .misuse

end Reading

/-- Reads a command line. -/
def parse (words : List Text) : Except Refusal Arguments := do
  let r ← Reading.read ⟨.standard, false⟩ (← Word.ofTexts words)
  if r.surplus then throw .misuse
  return r.arguments

end Hexscope.CommandLine
